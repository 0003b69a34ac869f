import StabilizerPrep.Circuit.Basic
import StabilizerPrep.Generator

/-!
# Simulation of circuits

A circuit is followed by the images of the operators `Z` on its qubits, which
every gate conjugates in turn.
-/

namespace StabilizerPrep

set_option autoImplicit false

/-- The images of the operators `Z` on each qubit. -/
structure Tableau where
  qubits : Nat
  generators : List Generator
  deriving DecidableEq, Repr

namespace Tableau

def start (qubits : Nat) : Tableau where
  qubits := qubits
  generators := (List.range qubits).map fun qubit => ⟨0, Mask.single qubit, false⟩

def new (qubits : Nat) : Except Fault Tableau :=
  if Pauli.maxQubits < qubits then .error (.tooManyQubits qubits Pauli.maxQubits)
  else .ok (start qubits)

def apply (tableau : Tableau) (instruction : Instruction) : Tableau :=
  { tableau with
    generators := tableau.generators.map (Generator.conjugate instruction) }

def run (tableau : Tableau) (instructions : List Instruction) : Tableau :=
  instructions.foldl apply tableau

/-- Whether the operands of an instruction have places in the masks of the
generators. Without generators there are no masks to look at. -/
def admits (tableau : Tableau) (instruction : Instruction) : Bool :=
  tableau.generators.isEmpty || instruction.qubits.all (· < Pauli.maxQubits)

def run? (tableau : Tableau) (instructions : List Instruction) : Option Tableau :=
  if instructions.all tableau.admits then some (tableau.run instructions) else none

def ofCircuit (circuit : Circuit) : Except Fault Tableau := do
  let tableau ← new circuit.width
  .ok (tableau.run circuit.instructions)

def paulis (tableau : Tableau) : List Pauli :=
  tableau.generators.map (Generator.toPauli tableau.qubits)

end Tableau

end StabilizerPrep
