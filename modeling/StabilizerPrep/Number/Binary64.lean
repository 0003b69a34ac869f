import StabilizerPrep.Arithmetic
import StabilizerPrep.Number.Rounding

/-!
# Binary fractions of 53 digits

The nonnegative numbers that a double-precision word holds in normal form: a
significand of exactly 53 binary digits and a power of two. A quotient of
naturals is rounded to the nearest of them, and to the even one of two.
Averages of table entries are far from both ends of the range of exponents,
so the ends play no part here.
-/

namespace StabilizerPrep.Number

set_option autoImplicit false

/-- The number `significand · 2 ^ exponent`. -/
structure Binary64 where
  significand : Nat
  exponent : Int
  deriving DecidableEq, Repr

namespace Binary64

/-- The least significand. -/
def leading : Nat :=
  2 ^ 52

/-- `value · 2 ^ exponent`, if that is a whole number. -/
def scaleUp (value : Nat) (exponent : Int) : Nat :=
  value * 2 ^ exponent.toNat

/-- A significand that rounding has carried to 54 digits is halved. -/
def normalize (significand : Nat) (exponent : Int) : Binary64 :=
  if significand = 2 * leading then ⟨leading, exponent + 1⟩ else ⟨significand, exponent⟩

/-- The binary fraction nearest to a quotient. The exponent is chosen so that
the quotient has 53 digits before the point. -/
def ofQuotient (numerator denominator : Nat) : Binary64 :=
  if numerator = 0 ∨ denominator = 0 then ⟨0, 0⟩
  else
    let guess : Int := (numerator.log2 : Int) - denominator.log2 - 52
    let exponent : Int :=
      if scaleUp numerator (-guess) / scaleUp denominator guess < leading then guess - 1
      else guess
    normalize (roundQuotient (scaleUp numerator (-exponent)) (scaleUp denominator exponent))
      exponent

def numerator (number : Binary64) : Nat :=
  scaleUp number.significand number.exponent

def denominator (number : Binary64) : Nat :=
  scaleUp 1 (-number.exponent)

/-- The word of 64 digits: eleven digits of the exponent, which is biased, and
the significand without its leading digit. -/
def word (number : Binary64) : Nat :=
  if number.significand = 0 then 0
  else (number.exponent + 1075).toNat * leading + (number.significand - leading)

def hexText (number : Binary64) : String :=
  let digits := Nat.toDigits 16 number.word
  .ofList (List.replicate (16 - digits.length) '0' ++ digits)

end Binary64

end StabilizerPrep.Number
