import StabilizerPrep.Circuit.Instruction

/-!
# Circuits

A circuit has a fixed width and a list of instructions in time order. The
operations that add instructions refuse those that do not fit the width, so
every circuit built by them is `WellFormed`.
-/

namespace StabilizerPrep

set_option autoImplicit false

structure Circuit where
  width : Nat
  instructions : List Instruction
  deriving DecidableEq, Repr

namespace Circuit

def empty (width : Nat) : Circuit :=
  ⟨width, []⟩

/-- Every instruction fits the width of the circuit. -/
def WellFormed (circuit : Circuit) : Prop :=
  ∀ instruction ∈ circuit.instructions,
    instruction.checkWithin circuit.width = .ok ()

def push (circuit : Circuit) (instruction : Instruction) :
    Except CircuitFault Circuit := do
  instruction.checkWithin circuit.width
  .ok { circuit with instructions := circuit.instructions ++ [instruction] }

/-- Appends a gate. The operands are compared with each other before they are
compared with the width. -/
def apply (circuit : Circuit) (gate : Gate) (qubits : List Nat) :
    Except CircuitFault Circuit :=
  circuit.push ⟨gate, qubits⟩

/-- The circuit of the given instructions; the first one that does not fit is
reported. -/
def ofInstructions (width : Nat) (instructions : List Instruction) :
    Except CircuitFault Circuit := do
  instructions.forM (Instruction.checkWithin width)
  .ok ⟨width, instructions⟩

/-- The first circuit followed by the second. -/
def compose (first second : Circuit) : Except CircuitFault Circuit :=
  if first.width = second.width then
    .ok ⟨first.width, first.instructions ++ second.instructions⟩
  else .error (.widthMismatch first.width second.width)

def prepend (circuit earlier : Circuit) : Except CircuitFault Circuit :=
  earlier.compose circuit

def inverse (circuit : Circuit) : Circuit :=
  ⟨circuit.width, (circuit.instructions.map Instruction.inverse).reverse⟩

@[simp] theorem inverse_inverse (circuit : Circuit) :
    circuit.inverse.inverse = circuit := by
  simp [inverse, Function.comp_def]

end Circuit

end StabilizerPrep
