import StabilizerPrep.Stabilizer.Group

/-!
# Sign rotation

A circuit that prepares a state up to signs is corrected at its beginning:
generator `j` of the prepared state is the image of `Z` on qubit `j`, so a
gate `x` on qubit `j` in front of the circuit changes the sign of that
generator and of no other.
-/

namespace StabilizerPrep.Circuit

set_option autoImplicit false

/-- The qubits whose generators have the wrong sign. The list starts with
generator `index`. -/
def wrongSigns (target : Stabilizer) : Nat → List Pauli → Except Fault (List Nat)
  | _, [] => .ok []
  | index, pauli :: others =>
      match target.signOf pauli with
      | none => .error (.differentGroup index)
      | some wanted => do
          let rest ← wrongSigns target (index + 1) others
          .ok (if pauli.sign = some wanted then rest else index :: rest)

/-- The circuit with gates `x` in front, so that it prepares exactly the
target. -/
def rotateInto (circuit : Circuit) (target : Stabilizer) : Except Fault Circuit :=
  if target.qubits ≠ circuit.width then
    .error (.dimensionMismatch .targetQubits circuit.width target.qubits)
  else do
    let prepared ← Stabilizer.ofCircuit circuit
    let flips ← wrongSigns target 0 prepared.paulis
    .ok ⟨circuit.width, flips.map (fun qubit => ⟨.x, [qubit]⟩) ++ circuit.instructions⟩

/-- The circuit with gates `x` in front, so that it prepares what the
reference prepares. -/
def rotateIntoCircuit (circuit reference : Circuit) : Except Fault Circuit := do
  let target ← Stabilizer.ofCircuit reference
  circuit.rotateInto target

end StabilizerPrep.Circuit
