import StabilizerPrep.Arithmetic

/-!
# Bit masks

Finite sets of positions as natural numbers: position `i` belongs to a mask
when its bit `i` is set. Exclusive or of masks is addition over the field
with two elements, so masks are also the vectors of the linear algebra.
-/

namespace StabilizerPrep.Mask

set_option autoImplicit false

/-- The mask whose bit `i` is the `i`-th truth value of the list. -/
def ofBits : List Bool → Nat
  | [] => 0
  | bit :: rest => bit.toNat + 2 * ofBits rest

/-- The positions below `width` that pass a test. -/
def ofTest (width : Nat) (test : Nat → Bool) : Nat :=
  ofBits ((List.range width).map test)

def single (position : Nat) : Nat :=
  2 ^ position

def full (width : Nat) : Nat :=
  2 ^ width - 1

def positions (width mask : Nat) : List Nat :=
  (List.range width).filter mask.testBit

def bits (width mask : Nat) : List Bool :=
  (List.range width).map mask.testBit

def weightBelow : Nat → Nat → Nat
  | 0, _ => 0
  | width + 1, mask => mask % 2 + weightBelow width (mask / 2)

/-- The number of members. No member lies above the binary logarithm. -/
def weight (mask : Nat) : Nat :=
  weightBelow (mask.log2 + 1) mask

def parity (mask : Nat) : Bool :=
  weight mask % 2 == 1

def lowest? (mask : Nat) : Option Nat :=
  (positions (mask.log2 + 1) mask).head?

def toggle (condition : Bool) (position mask : Nat) : Nat :=
  if condition then mask ^^^ single position else mask

def erase (position mask : Nat) : Nat :=
  toggle (mask.testBit position) position mask

def swap (first second mask : Nat) : Nat :=
  if mask.testBit first = mask.testBit second then mask
  else mask ^^^ single first ^^^ single second

theorem of_bits_lt (values : List Bool) : ofBits values < 2 ^ values.length := by
  induction values with
  | nil => decide
  | cons bit rest ih =>
      have bound : bit.toNat ≤ 1 := by cases bit <;> decide
      have double : 2 ^ (rest.length + 1) = 2 ^ rest.length * 2 := rfl
      simp only [ofBits, List.length_cons]
      omega

theorem of_test_lt (width : Nat) (test : Nat → Bool) : ofTest width test < 2 ^ width := by
  simpa [ofTest] using of_bits_lt ((List.range width).map test)

theorem test_bit_of_bits (values : List Bool) (position : Nat) :
    (ofBits values).testBit position = values.getD position false := by
  induction values generalizing position with
  | nil => simp [ofBits]
  | cons bit rest ih =>
      cases position with
      | zero =>
          cases bit <;> simp [ofBits, Nat.testBit_zero]
      | succ position =>
          have half : (bit.toNat + 2 * ofBits rest) / 2 = ofBits rest := by
            have bound : bit.toNat ≤ 1 := by cases bit <;> decide
            omega
          simp [ofBits, Nat.testBit_succ, half, ih]

end StabilizerPrep.Mask
