import StabilizerPrep.Number.Binary64

/-!
# Decimal text of binary fractions

Two ways to write a binary fraction in decimal, both positional: with the
fewest decimal places that read back as the same binary fraction, and with a
fixed number of places.
-/

namespace StabilizerPrep.Number

set_option autoImplicit false

structure Decimal where
  digits : Nat
  places : Nat
  deriving DecidableEq, Repr

namespace Decimal

/-- A numeral with zeros in front up to the given width. -/
def padded (width value : Nat) : String :=
  let text := Nat.repr value
  .ofList (List.replicate (width - text.length) '0') ++ text

/-- The text of a decimal fraction. At least one place is written. -/
def text (decimal : Decimal) : String :=
  let unit := 10 ^ decimal.places
  Nat.repr (decimal.digits / unit) ++ "." ++
    padded (max decimal.places 1) (decimal.digits % unit)

end Decimal

namespace Binary64

/-- Whether a decimal fraction is read as the given binary fraction: it lies
between the midpoints to the two neighbours, and a midpoint itself is read as
the number with the even significand. The neighbour below a power of two is
only half as far away. Quarters of the last binary place are counted. -/
def reads (number : Binary64) (decimal : Decimal) : Bool :=
  let below := if number.significand = leading then 1 else 2
  let lower := 4 * number.significand - below
  let upper := 4 * number.significand + 2
  let unit := number.exponent - 2
  let point := decimal.digits * scaleUp 1 (-unit)
  let least := lower * scaleUp 1 unit * 10 ^ decimal.places
  let most := upper * scaleUp 1 unit * 10 ^ decimal.places
  if number.significand % 2 = 0 then least ≤ point && point ≤ most
  else least < point && point < most

/-- The number rounded to some decimal places; a half goes to the even
neighbour. -/
def toPlaces (number : Binary64) (places : Nat) : Decimal :=
  ⟨roundQuotient (number.numerator * 10 ^ places) number.denominator, places⟩

/-- The number rounded to the fewest decimal places at which the result reads
back. With as many places as the binary fraction has, the decimal fraction is
exact, so the search ends there at the latest. -/
def shortest (number : Binary64) : Decimal :=
  let places := (List.range ((-number.exponent).toNat + 1)).find? fun places =>
    number.reads (number.toPlaces places)
  number.toPlaces (places.getD (-number.exponent).toNat)

end Binary64

end StabilizerPrep.Number
