import StabilizerPrep.Entanglement.LocalClass
import StabilizerPrep.Layer.Basic
import StabilizerPrep.Sampling.Draw
import StabilizerPrep.Stabilizer.Group
import StabilizerPrep.Stabilizer.Parts

/-!
# Random stabilizers

A random stabilizer is determined by choices: a class, a Clifford for each
qubit, a sign for each generator, and pairs of generators that are multiplied.
It is the graph state that represents the class, under a layer of Cliffords,
with other signs and other generators. So the choices may be arbitrary, and
the stabilizer stays in the chosen class.
-/

namespace StabilizerPrep

set_option autoImplicit false

/-- The circuit that prepares the graph state: `h` on every qubit, then `cz`
on every edge. -/
def Graph.preparation (graph : Graph) : Circuit :=
  ⟨graph.size,
    (List.range graph.size).map (fun qubit => ⟨.h, [qubit]⟩) ++
      graph.edges.map fun (first, second) => ⟨.cz, [first, second]⟩⟩

namespace Sampling

structure Choices where
  id : Nat
  layer : Layer
  signs : List Bool
  products : List (Nat × Nat)
  deriving DecidableEq, Repr

namespace Choices

/-- Multiplies generators one pair after the other. A pair of equal numbers
stands for no product. -/
def recombine (stabilizer : Stabilizer) : List (Nat × Nat) → Except Fault Stabilizer
  | [] => .ok stabilizer
  | (target, source) :: others =>
      if target = source then recombine stabilizer others
      else do
        let next ← stabilizer.multiply target source
        recombine next others

def stabilizer (qubits : Nat) (choices : Choices) : Except Fault Stabilizer := do
  let localClass ← LocalClass.ofId qubits choices.id
  let circuit ← liftCircuit (localClass.graph.preparation.compose choices.layer.circuit)
  let dressed ← Stabilizer.ofCircuit circuit
  recombine (.ofParts dressed.xPart dressed.zPart choices.signs) choices.products

/-- Draws the choices for a stabilizer: the class among `classes`, then the
Cliffords, the signs and the pairs. -/
def draw (qubits classes : Nat) : Draw Choices := do
  let id ← below classes
  let cliffords ← repeated (below LocalClifford.every.length) qubits
  let signs ← repeated coin qubits
  let products ← repeated (do return (← below qubits, ← below qubits)) (qubits * qubits)
  return ⟨id, ⟨cliffords.map fun index => LocalClifford.every.getD index .i⟩, signs, products⟩

end Choices

def stabilizer (qubits : Nat) (words : Words) : Except Fault (Stabilizer × Nat) := do
  let classes ← LocalClass.count qubits
  let (choices, taken) := (Choices.draw qubits classes).run words |>.run 0
  let stabilizer ← choices.stabilizer qubits
  .ok (stabilizer, taken)

end Sampling

end StabilizerPrep
