import StabilizerPrep.Basis.Table
import StabilizerPrep.Report.Circuit
import StabilizerPrep.Report.Statistics

/-!
# Reports on mutually unbiased bases

The bases of a device, each with its readout circuit, and what the circuits
cost.
-/

namespace StabilizerPrep

set_option autoImplicit false

def BasisInfo.document (info : BasisInfo) : Document :=
  .named
    [("num_circuits", .natural info.circuits), ("max_two_qubit_count", .natural info.maxCount),
      ("max_two_qubit_depth", .natural info.maxDepth),
      ("average_two_qubit_gates", info.average.document)]

def BasisTable.report (table : BasisTable) : Report :=
  let info := table.info
  let rows := table.basisTexts.zip table.circuits
  let title := s!"{info.circuits} mutually unbiased bases on {table.qubits} qubits"
  { lines :=
      [s!"→ {title} ({table.device.name} connectivity)", ""] ++
        (rows.mapIdx fun index (paulis, circuit) =>
          "  " ++ Text.alignRight 2 (Nat.repr index) ++ "  " ++ ",".intercalate paulis ++ "  " ++
            circuit.spec) ++
        ["",
          s!"  Max two-qubit gates: {info.maxCount}, max depth {info.maxDepth}" ++
            s!", average {info.average.text}"]
    document := .named
      [("info", info.document),
        ("bases", .list (rows.map fun (paulis, circuit) =>
          .named
            [("paulis", .texts paulis), ("circuit", circuit.summary table.device)]))] }

end StabilizerPrep
