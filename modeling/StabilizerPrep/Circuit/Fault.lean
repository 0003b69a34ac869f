import StabilizerPrep.Gate

/-!
# What can be wrong with a circuit

The causes for which an instruction, a circuit or a gate specification is
refused, with the text that reports each of them.
-/

namespace StabilizerPrep

set_option autoImplicit false

inductive SpecFault where
  | expectedGate
  | unexpectedCharacter
  | expectedIndex (name : String)
  | unseparated
  deriving DecidableEq, Repr

def SpecFault.message : SpecFault → String
  | .expectedGate => "expected a gate identifier"
  | .unexpectedCharacter => "unexpected character"
  | .expectedIndex name => s!"expected a qubit index after '{name}'"
  | .unseparated => "instructions must be separated by whitespace"

/-- Why a circuit is refused. Offsets count the bytes of the specification's
UTF-8 form. -/
inductive CircuitFault where
  | qubitOutOfRange (qubit width : Nat) (gate : Gate)
  | duplicateQubit (qubit : Nat) (gate : Gate)
  | operandCount (gate : Gate) (got : Nat)
  | widthMismatch (left right : Nat)
  | unknownGate (name : String) (offset : Nat)
  | malformedSpec (offset : Nat) (fault : SpecFault)
  deriving DecidableEq, Repr

def CircuitFault.message : CircuitFault → String
  | .qubitOutOfRange qubit width gate =>
      s!"Qubit q{qubit} out of range for a {width}-qubit circuit (gate: {gate.name})"
  | .duplicateQubit qubit gate =>
      s!"Duplicate qubit q{qubit} in operation (gate: {gate.name})"
  | .operandCount gate got =>
      s!"Gate '{gate.name}' requires {gate.arity} qubits, got {got}"
  | .widthMismatch left right =>
      s!"Cannot combine a {left}-qubit circuit with a {right}-qubit circuit"
  | .unknownGate name offset => s!"Unknown gate '{name}' at offset {offset}"
  | .malformedSpec offset fault =>
      s!"Malformed gate specification at offset {offset}: {fault.message}"

end StabilizerPrep
