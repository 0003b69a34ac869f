import StabilizerPrep.Entanglement.Classification
import StabilizerPrep.Layer.Solver
import StabilizerPrep.Rotation
import StabilizerPrep.Template.Table

/-!
# Synthesis from a template

A template prepares the graph state of some graph in the class of a
stabilizer. A layer that sends the stabilizer onto that graph state is undone
behind the template, and the signs are rotated into place.
-/

namespace StabilizerPrep

set_option autoImplicit false

structure Synthesis where
  localClass : LocalClass
  template : Template
  layer : Layer
  circuit : Circuit
  deriving DecidableEq, Repr

/-- Prepares a stabilizer of the given class from the template of that
class. -/
def Template.prepare (template : Template) (localClass : LocalClass)
    (stabilizer : Stabilizer) : Except Fault Synthesis := do
  let graph ← template.graph
  match Layer.find stabilizer.xPart stabilizer.zPart graph with
  | none => .error (.noLocalLayer template.graphId)
  | some layer =>
      let unsigned ← liftCircuit (template.circuit.compose layer.circuit.inverse)
      let circuit ← unsigned.rotateInto stabilizer
      .ok ⟨localClass, template, layer, circuit⟩

end StabilizerPrep
