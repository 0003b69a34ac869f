import StabilizerPrep.Entanglement.LocalClass
import StabilizerPrep.Graph.Compressed
import StabilizerPrep.Report.Basic
import StabilizerPrep.Stabilizer.Basic

/-!
# Reports on classes

What is told about the class of a stabilizer: its structure, its number, the
roles of the vertices and the representative graph.
-/

namespace StabilizerPrep

set_option autoImplicit false

def LocalClass.report (localClass : LocalClass) (stabilizer : Stabilizer) :
    Except Fault Report := do
  let graph := localClass.graph
  let graphId ← graph.compress
  let edges := graph.edges.map fun (first, second) => Document.naturals [first, second]
  .ok
    { lines :=
        [s!"→ {stabilizer.text}",
          s!"  Structure:      {localClass.kind.name}",
          s!"  Class id:       {localClass.id}",
          s!"  Vertex roles:   {localClass.roles.text}",
          s!"  Representative: {graph.text} (graph id {graphId})"]
      document := .named
        [("num_qubits", .natural localClass.qubits), ("structure", .text localClass.kind.name),
          ("id", .natural localClass.id), ("repr", .text localClass.roles.text),
          ("graph_id", .natural graphId), ("edges", .list edges)] }

end StabilizerPrep
