import StabilizerPrep.Arithmetic

/-!
# Pairs and triples

The increasing pairs and triples of numbers below a bound, in lexicographic
order, and the rank of a pair in that order.
-/

namespace StabilizerPrep

set_option autoImplicit false

/-- The numbers from `start` on that are below `bound`. -/
def interval (start bound : Nat) : List Nat :=
  List.range' start (bound - start)

def pairs (bound : Nat) : List (Nat × Nat) :=
  (List.range bound).flatMap fun first =>
    (interval (first + 1) bound).map fun second => (first, second)

def triples (bound : Nat) : List (Nat × Nat × Nat) :=
  (List.range bound).flatMap fun first =>
    (interval (first + 1) bound).flatMap fun second =>
      (interval (second + 1) bound).map fun third => (first, second, third)

/-- The rank of the pair `first < second` among the pairs below `bound`: all
pairs, less those that start at `first` or later, plus the place among the
pairs that start at `first`. -/
def pairRank (bound first second : Nat) : Nat :=
  bound * (bound - 1) / 2 - (bound - first) * (bound - first - 1) / 2 + second - first - 1

/-- The rank of a pair, unless it is no increasing pair below the bound, or the
product that counts the ordered pairs below the bound leaves 64 bits. -/
def pairRank? (bound first second : Nat) : Option Nat :=
  if first < second ∧ second < bound ∧ bound * (bound - 1) < 2 ^ 64 then
    some (pairRank bound first second)
  else none

/-- The pair with the given rank among those whose members are at least `first`,
where `count` numbers are left from there on. The pairs that start at `first`
come before all others. -/
def pairFrom? (first : Nat) : Nat → Nat → Option (Nat × Nat)
  | 0, _ => none
  | count + 1, rank =>
      if rank < count then some (first, first + 1 + rank)
      else pairFrom? (first + 1) count (rank - count)

def pairOfRank? (bound rank : Nat) : Option (Nat × Nat) :=
  pairFrom? 0 bound rank

end StabilizerPrep
