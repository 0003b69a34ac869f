/-!
# Reading unsigned numbers

A number is an optional plus sign and at least one decimal digit. Reading goes
from left to right and reports the first thing that is wrong: a character that
is no digit, or a value that leaves the admitted range.
-/

namespace StabilizerPrep.Text

set_option autoImplicit false

inductive NumberFault where
  | empty
  | invalidDigit
  | tooLarge
  deriving DecidableEq, Repr

def NumberFault.message : NumberFault → String
  | .empty => "cannot parse integer from empty string"
  | .invalidDigit => "invalid digit found in string"
  | .tooLarge => "number too large to fit in target type"

/-- Reads the remaining digits onto a value that is already below `limit`. -/
def readDigits (limit : Nat) : Nat → List Char → Except NumberFault Nat
  | value, [] => .ok value
  | value, letter :: rest =>
      if letter.isDigit then
        let next := 10 * value + (letter.toNat - '0'.toNat)
        if next < limit then readDigits limit next rest else .error .tooLarge
      else .error .invalidDigit

def readNumber (limit : Nat) (text : List Char) : Except NumberFault Nat :=
  match text with
  | [] => .error .empty
  | ['+'] => .error .invalidDigit
  | '+' :: digits => readDigits limit 0 digits
  | digits => readDigits limit 0 digits

end StabilizerPrep.Text
