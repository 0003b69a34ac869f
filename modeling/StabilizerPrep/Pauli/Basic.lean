import StabilizerPrep.Mask
import StabilizerPrep.Fault

/-!
# Pauli operators

A Pauli operator is `i^phase X^x Z^z`: the mask `x` tells where the factor
`X` stands, the mask `z` where the factor `Z` stands, and all factors `X` are
to the left of all factors `Z`. Because `Y = i X Z`, a Hermitian operator with
`m` factors `Y` has the phase `m` or `m + 2` modulo four.
-/

namespace StabilizerPrep

set_option autoImplicit false

@[ext]
structure Pauli where
  qubits : Nat
  x : Nat
  z : Nat
  phase : Nat
  phase_lt : phase < 4
  deriving DecidableEq, Repr

inductive Factor where
  | i
  | x
  | y
  | z
  deriving DecidableEq, Repr

namespace Factor

def ofBits : Bool → Bool → Factor
  | false, false => .i
  | true, false => .x
  | false, true => .z
  | true, true => .y

def letter : Factor → Char
  | .i => 'I'
  | .x => 'X'
  | .y => 'Y'
  | .z => 'Z'

def ofLetter? : Char → Option Factor
  | 'I' => some .i
  | 'X' => some .x
  | 'Y' => some .y
  | 'Z' => some .z
  | _ => none

def hasX : Factor → Bool
  | .x | .y => true
  | _ => false

def hasZ : Factor → Bool
  | .z | .y => true
  | _ => false

@[simp] theorem of_letter?_letter (factor : Factor) :
    ofLetter? factor.letter = some factor := by
  cases factor <;> rfl

@[simp] theorem of_bits_has_x_has_z (factor : Factor) :
    ofBits factor.hasX factor.hasZ = factor := by
  cases factor <;> rfl

end Factor

namespace Pauli

/-- The largest number of qubits of an operator that is read or written, and the
number of places of its masks. -/
def maxQubits : Nat :=
  64

def identity (qubits : Nat) : Pauli :=
  ⟨qubits, 0, 0, 0, by decide⟩

def ofMasks (qubits x z : Nat) (negative : Bool) : Pauli :=
  { qubits := qubits
    x := x
    z := z
    phase := (Mask.weight (x &&& z) + 2 * negative.toNat) % 4
    phase_lt := Nat.mod_lt _ (by decide) }

/-- The power of `i` in front of the product of the factors. -/
def prefactor (pauli : Pauli) : Nat :=
  (pauli.phase + 4 - Mask.weight (pauli.x &&& pauli.z) % 4) % 4

/-- The sign of a Hermitian operator, true for minus. -/
def sign (pauli : Pauli) : Option Bool :=
  match pauli.prefactor with
  | 0 => some false
  | 2 => some true
  | _ => none

/-- The qubits on which the operator is the identity. -/
def identityMask (pauli : Pauli) : Nat :=
  Mask.full pauli.qubits ^^^ ((pauli.x ||| pauli.z) % 2 ^ pauli.qubits)

def weight (pauli : Pauli) : Nat :=
  Mask.weight (pauli.x ||| pauli.z)

def factor (pauli : Pauli) (qubit : Nat) : Factor :=
  .ofBits (pauli.x.testBit qubit) (pauli.z.testBit qubit)

def unsigned (pauli : Pauli) : Pauli :=
  ofMasks pauli.qubits pauli.x pauli.z false

def negate (pauli : Pauli) : Pauli :=
  { pauli with phase := (pauli.phase + 2) % 4, phase_lt := Nat.mod_lt _ (by decide) }

def commutes (first second : Pauli) : Bool :=
  !Mask.parity ((first.x &&& second.z) ^^^ (first.z &&& second.x))

/-- The product. Each factor `Z` of the first operator that passes a factor
`X` of the second one changes the sign. -/
def mul (first second : Pauli) : Pauli :=
  { qubits := first.qubits
    x := first.x ^^^ second.x
    z := first.z ^^^ second.z
    phase := (first.phase + second.phase +
      2 * (Mask.parity (first.z &&& second.x)).toNat) % 4
    phase_lt := Nat.mod_lt _ (by decide) }

instance : Mul Pauli := ⟨mul⟩

end Pauli

end StabilizerPrep
