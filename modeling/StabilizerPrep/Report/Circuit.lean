import StabilizerPrep.Circuit.Metrics
import StabilizerPrep.Report.Basic
import StabilizerPrep.Synthesis

/-!
# Reports on circuits

What is told about a circuit for a device: its gates and what they cost.
-/

namespace StabilizerPrep

set_option autoImplicit false

def Circuit.summary (circuit : Circuit) (device : Device) : Document :=
  let metrics := circuit.metrics
  .named
    [("num_qubits", .natural circuit.width), ("connectivity", .text device.name),
      ("gates", .text circuit.spec), ("two_qubit_count", .natural metrics.count),
      ("two_qubit_depth", .natural metrics.depth)]

def Circuit.summaryLines (circuit : Circuit) : List String :=
  let metrics := circuit.metrics
  ["  " ++ circuit.spec, s!"  Two-qubit gates: {metrics.count}, depth {metrics.depth}"]

def LocalClass.summaryLine (localClass : LocalClass) : String :=
  s!"  Class: {localClass.kind.name} (id {localClass.id})"

inductive Direction where
  | prepare
  | readout
  deriving DecidableEq, Repr

namespace Direction

def title : Direction → String
  | .prepare => "Preparation"
  | .readout => "Readout"

def circuit (synthesis : Synthesis) : Direction → Circuit
  | .prepare => synthesis.circuit
  | .readout => synthesis.circuit.inverse

end Direction

def Synthesis.report (synthesis : Synthesis) (stabilizer : Stabilizer) (device : Device)
    (direction : Direction) : Report :=
  let circuit := direction.circuit synthesis
  { lines :=
      [s!"→ {direction.title} circuit for {stabilizer.text} on {device.name} connectivity",
        synthesis.localClass.summaryLine] ++
        circuit.summaryLines ++ ["✓ Done"]
    document := circuit.summary device }

def Circuit.compressionReport (circuit compressed : Circuit) (device : Device) : Report :=
  let metrics := circuit.metrics
  let size := circuit.instructions.length
  { lines :=
      [s!"→ Compressing {size} gates on {circuit.width} qubits for {device.name} connectivity",
        s!"  Input two-qubit gates: {metrics.count}, depth {metrics.depth}"] ++
        compressed.summaryLines ++ ["✓ Same state, signs included"]
    document := compressed.summary device }

end StabilizerPrep
