/-!
# Rounding a quotient

The integer nearest to a quotient of two naturals. Of two equally near ones
the even one is taken.
-/

namespace StabilizerPrep.Number

set_option autoImplicit false

/-- The nearest integer to `numerator / denominator`; a half goes to the even
neighbour. -/
def roundQuotient (numerator denominator : Nat) : Nat :=
  let quotient := numerator / denominator
  let twice := 2 * (numerator % denominator)
  if denominator < twice ∨ (twice = denominator ∧ quotient % 2 = 1) then quotient + 1
  else quotient

/-- The rounded quotient is at most half a unit above the quotient. -/
theorem round_quotient_upper (numerator denominator : Nat) (positive : 0 < denominator) :
    2 * (denominator * roundQuotient numerator denominator) ≤
      2 * numerator + denominator := by
  have split := Nat.div_add_mod numerator denominator
  have below := Nat.mod_lt numerator positive
  simp only [roundQuotient]
  split
  · rw [Nat.mul_add]; omega
  · omega

/-- The rounded quotient is at most half a unit below the quotient. -/
theorem round_quotient_lower (numerator denominator : Nat) (positive : 0 < denominator) :
    2 * numerator ≤
      2 * (denominator * roundQuotient numerator denominator) + denominator := by
  have split := Nat.div_add_mod numerator denominator
  have below := Nat.mod_lt numerator positive
  simp only [roundQuotient]
  split
  · rw [Nat.mul_add]; omega
  · omega

end StabilizerPrep.Number
