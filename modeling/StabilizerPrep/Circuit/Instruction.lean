import StabilizerPrep.Circuit.Fault

/-!
# Instructions

A gate together with the qubits it acts on. An instruction may be written
down with any operands; `check` accepts it when their number is the gate's
arity and two operands differ, and `checkWithin` when they also lie inside a
circuit of a given width.
-/

namespace StabilizerPrep

set_option autoImplicit false

structure Instruction where
  gate : Gate
  qubits : List Nat
  deriving DecidableEq, Repr

namespace Instruction

def inverse (instruction : Instruction) : Instruction :=
  { instruction with gate := instruction.gate.inverse }

def isTwoQubit (instruction : Instruction) : Bool :=
  instruction.qubits.length == 2

def check (instruction : Instruction) : Except CircuitFault Unit :=
  if instruction.qubits.length ≠ instruction.gate.arity then
    .error (.operandCount instruction.gate instruction.qubits.length)
  else
    match instruction.qubits with
    | [first, second] =>
        if first = second then .error (.duplicateQubit first instruction.gate)
        else .ok ()
    | _ => .ok ()

def checkWithin (width : Nat) (instruction : Instruction) :
    Except CircuitFault Unit := do
  instruction.check
  match instruction.qubits.find? fun qubit => width ≤ qubit with
  | some qubit => .error (.qubitOutOfRange qubit width instruction.gate)
  | none => .ok ()

def make (gate : Gate) (qubits : List Nat) : Except CircuitFault Instruction := do
  let instruction : Instruction := ⟨gate, qubits⟩
  instruction.check
  .ok instruction

/-- The letters of the instruction as a word of a gate specification, such as
`cx1,2`. -/
def letters (instruction : Instruction) : List Char :=
  instruction.gate.letters ++
    [','].intercalate (instruction.qubits.map (Nat.toDigits 10))

def text (instruction : Instruction) : String :=
  .ofList instruction.letters

@[simp] theorem inverse_inverse (instruction : Instruction) :
    instruction.inverse.inverse = instruction := by
  simp [inverse]

end Instruction

end StabilizerPrep
