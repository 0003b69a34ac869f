import StabilizerPrep.Report.Circuit

/-!
# Reports on samples

A random stabilizer with the circuit that prepares it, and whether the circuit
has been found to prepare it.
-/

namespace StabilizerPrep

set_option autoImplicit false

structure Sample where
  seed : Nat
  device : Device
  stabilizer : Stabilizer
  synthesis : Synthesis
  verified : Bool

namespace Sample

/-- Follows the circuit of a synthesis to see whether it prepares the
stabilizer. -/
def make (seed : Nat) (device : Device) (stabilizer : Stabilizer) (synthesis : Synthesis) :
    Except Fault Sample := do
  let prepared ← Stabilizer.ofCircuit synthesis.circuit
  .ok ⟨seed, device, stabilizer, synthesis, prepared.equivalent stabilizer⟩

def report (sample : Sample) : Report :=
  let localClass := sample.synthesis.localClass
  { lines :=
      [s!"→ Sampled {sample.stabilizer.text} (seed {sample.seed})", localClass.summaryLine] ++
        sample.synthesis.circuit.summaryLines
    document := .named
      [("seed", .natural sample.seed), ("stabilizer", .texts sample.stabilizer.texts),
        ("structure", .text localClass.kind.name), ("class_id", .natural localClass.id),
        ("circuit", sample.synthesis.circuit.summary sample.device),
        ("verified", .truth sample.verified)] }

end Sample

end StabilizerPrep
