import StabilizerPrep.Arithmetic

/-!
# Drawing from a stream of words

Choices are made from an endless stream of words of 64 bits, which are taken
one after the other. A number below a bound is the high half of the product of
a word and the bound. Words whose low half lies beyond the zone are passed
over, so that every number is drawn from equally many words.
-/

namespace StabilizerPrep.Sampling

set_option autoImplicit false

abbrev Words := Nat → Nat

/-- A computation that takes words from a stream. Its state is the number of
words taken so far. -/
abbrev Draw := ReaderT Words (StateM Nat)

def wordCount : Nat :=
  2 ^ 64

def word : Draw Nat := do
  let taken ← get
  set (taken + 1)
  return (← read) taken % wordCount

/-- The largest low half that is accepted: the bound is shifted to the left
until its leading bit is the first bit of the word. -/
def zone (bound : Nat) : Nat :=
  bound * 2 ^ (63 - bound.log2) - 1

/-- Draws below a bound, passing over at most the given number of words. If
all of them are refused, zero is drawn. -/
def belowWithin (bound : Nat) : Nat → Draw Nat
  | 0 => return 0
  | attempts + 1 => do
      let product := (← word) * bound
      if product % wordCount ≤ zone bound then return product / wordCount
      else belowWithin bound attempts

/-- The number of words after which a draw gives up. More than half of all
words are accepted, so no honest stream gets there. -/
def patience : Nat :=
  65536

def below (bound : Nat) : Draw Nat :=
  belowWithin bound patience

/-- Draws a truth value: the lower half of all words gives true. -/
def coin : Draw Bool := do
  return (← word) < 2 ^ 63

def repeated {α : Type} (draw : Draw α) : Nat → Draw (List α)
  | 0 => return []
  | count + 1 => do
      let first ← draw
      let rest ← repeated draw count
      return first :: rest

end StabilizerPrep.Sampling
