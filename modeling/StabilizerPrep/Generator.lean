import StabilizerPrep.Circuit.Instruction
import StabilizerPrep.Pauli.Basic

/-!
# Generators

A Hermitian Pauli operator is kept as its two masks and its sign. Each gate
sends it to another one by conjugation.
-/

namespace StabilizerPrep

set_option autoImplicit false

/-- A Hermitian Pauli operator on some number of qubits: the qubits with a
factor `X` or `Y`, those with a factor `Z` or `Y`, and the sign. -/
structure Generator where
  x : Nat
  z : Nat
  negative : Bool
  deriving DecidableEq, Repr

namespace Generator

def toPauli (qubits : Nat) (generator : Generator) : Pauli :=
  .ofMasks qubits generator.x generator.z generator.negative

/-- Whether two operators commute, which does not depend on their signs. -/
def commutes (first second : Generator) : Bool :=
  !Mask.parity ((first.x &&& second.z) ^^^ (first.z &&& second.x))

/-- Conjugation by the Hadamard gate: `X` and `Z` trade places and `Y` changes
its sign. -/
def hadamard (qubit : Nat) (generator : Generator) : Generator :=
  let x := generator.x.testBit qubit
  let z := generator.z.testBit qubit
  { x := Mask.toggle (x != z) qubit generator.x
    z := Mask.toggle (x != z) qubit generator.z
    negative := generator.negative != (x && z) }

/-- Conjugation by the phase gate: `X` becomes `Y` and `Y` becomes `-X`. -/
def phase (qubit : Nat) (generator : Generator) : Generator :=
  let x := generator.x.testBit qubit
  let z := generator.z.testBit qubit
  { generator with
    z := Mask.toggle x qubit generator.z
    negative := generator.negative != (x && z) }

/-- Conjugation by the inverse phase gate: `X` becomes `-Y` and `Y` becomes
`X`. -/
def phaseInverse (qubit : Nat) (generator : Generator) : Generator :=
  let x := generator.x.testBit qubit
  let z := generator.z.testBit qubit
  { generator with
    z := Mask.toggle x qubit generator.z
    negative := generator.negative != (x && !z) }

def flip (condition : Bool) (generator : Generator) : Generator :=
  { generator with negative := generator.negative != condition }

/-- Conjugation by the controlled `X`: factors `X` spread from the control to
the target, and factors `Z` from the target to the control. -/
def controlledX (control target : Nat) (generator : Generator) : Generator :=
  let xControl := generator.x.testBit control
  let zControl := generator.z.testBit control
  let xTarget := generator.x.testBit target
  let zTarget := generator.z.testBit target
  { x := Mask.toggle xControl target generator.x
    z := Mask.toggle zTarget control generator.z
    negative := generator.negative != (xControl && zTarget && (xTarget == zControl)) }

/-- Conjugation by the controlled `Z`, which is a controlled `X` between two
Hadamard gates on the target. -/
def controlledZ (first second : Nat) (generator : Generator) : Generator :=
  ((generator.hadamard second).controlledX first second).hadamard second

def exchange (first second : Nat) (generator : Generator) : Generator :=
  { generator with
    x := Mask.swap first second generator.x
    z := Mask.swap first second generator.z }

/-- Conjugation by an instruction. Operands that do not fit the gate do
nothing. -/
def conjugate (instruction : Instruction) (generator : Generator) : Generator :=
  match instruction.gate, instruction.qubits with
  | .h, [qubit] => generator.hadamard qubit
  | .s, [qubit] => generator.phase qubit
  | .sdg, [qubit] => generator.phaseInverse qubit
  | .x, [qubit] => generator.flip (generator.z.testBit qubit)
  | .y, [qubit] => generator.flip (generator.x.testBit qubit != generator.z.testBit qubit)
  | .z, [qubit] => generator.flip (generator.x.testBit qubit)
  | .cx, [control, target] => generator.controlledX control target
  | .cz, [first, second] => generator.controlledZ first second
  | .swap, [first, second] => generator.exchange first second
  | _, _ => generator

end Generator

end StabilizerPrep
