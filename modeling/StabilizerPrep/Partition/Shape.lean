import StabilizerPrep.Pairs
import StabilizerPrep.Partition.Roles

/-!
# Shapes of partitions

A shape tells into groups of which sizes a set of vertices is divided, and
which of them may be told apart. The partitions of a shape are numbered:
`roles` gives the partition with a number, and `number?` finds the number of
a partition.
-/

namespace StabilizerPrep

set_option autoImplicit false

inductive Shape where
  /-- All vertices together. -/
  | whole (size : Nat)
  /-- One vertex and all others. -/
  | singleRest (size : Nat)
  /-- One pair and all others. -/
  | pairRest (size : Nat)
  /-- A pair and two single vertices. -/
  | pairSingles
  /-- Two pairs. -/
  | twoPairs
  /-- One vertex and two pairs, which are found by going around a cycle of
  five from that vertex. -/
  | singlePairPair
  /-- One vertex, a pair and a triple. -/
  | singlePairTriple
  /-- Two triples. -/
  | tripleTriple
  /-- Three pairs. -/
  | threePairs
  /-- A triple and three single vertices. -/
  | tripleSingles
  /-- Two vertices that cannot be told apart, and two pairs. -/
  | singlesPairs
  /-- A first and a second vertex, and two pairs. -/
  | orderedSinglesPairs
  deriving DecidableEq, Repr

/-- Why there is no partition with a number: there are not that many, or the
partitions of the shape cannot be counted or written down. -/
inductive RolesFault where
  | noSuchNumber
  | unrepresentable
  deriving DecidableEq, Repr

namespace Shape

def size : Shape → Nat
  | .whole size | .singleRest size | .pairRest size => size
  | .pairSingles | .twoPairs => 4
  | .singlePairPair => 5
  | .singlePairTriple | .tripleTriple | .threePairs | .tripleSingles | .singlesPairs
  | .orderedSinglesPairs => 6

def name : Shape → String
  | .whole _ => "Whole"
  | .singleRest _ => "SingleRest"
  | .pairRest _ => "PairRest"
  | .pairSingles => "PairSingles"
  | .twoPairs => "TwoPairs"
  | .singlePairPair => "SinglePairPair"
  | .singlePairTriple => "SinglePairTriple"
  | .tripleTriple => "TripleTriple"
  | .threePairs => "ThreePairs"
  | .tripleSingles => "TripleSingles"
  | .singlesPairs => "SinglesPairs"
  | .orderedSinglesPairs => "OrderedSinglesPairs"

/-- A shape as text. The size is shown where it may vary. -/
def text (shape : Shape) : String :=
  match shape with
  | .whole size | .singleRest size | .pairRest size => s!"{shape.name}({size})"
  | _ => shape.name

def every (size : Nat) : List Shape :=
  [.whole size, .singleRest size, .pairRest size, .pairSingles, .twoPairs, .singlePairPair,
    .singlePairTriple, .tripleTriple, .threePairs, .tripleSingles, .singlesPairs,
    .orderedSinglesPairs]

def ofName? (size : Nat) (name : String) : Option Shape :=
  (every size).find? fun shape => shape.name == name

def count : Shape → Nat
  | .whole _ => 1
  | .singleRest size => size
  | .pairRest size => size * (size - 1) / 2
  | .pairSingles => 6
  | .twoPairs => 3
  | .singlePairPair => 15
  | .singlePairTriple => 60
  | .tripleTriple => 10
  | .threePairs => 15
  | .tripleSingles => 20
  | .singlesPairs => 45
  | .orderedSinglesPairs => 90

/-- Whether the partitions can be counted. Pairs are counted by a product of
two numbers of 64 bits, the second of them one less than the first. -/
def isCountable : Shape → Bool
  | .pairRest size => 0 < size && size * (size - 1) < 2 ^ 64
  | _ => true

def count? (shape : Shape) : Option Nat :=
  if shape.isCountable then some shape.count else none

/-- The sizes of the groups, in no particular order. -/
def parts : Shape → List Nat
  | .whole size => [size]
  | .singleRest size => [1, size - 1]
  | .pairRest size => [2, size - 2]
  | .pairSingles => [1, 1, 2]
  | .twoPairs => [2, 2]
  | .singlePairPair => [1, 2, 2]
  | .singlePairTriple => [1, 2, 3]
  | .tripleTriple => [3, 3]
  | .threePairs => [2, 2, 2]
  | .tripleSingles => [1, 1, 1, 3]
  | .singlesPairs | .orderedSinglesPairs => [1, 1, 2, 2]

def fits (shape : Shape) (roles : Roles) : Bool :=
  (roles.groups.map List.length).isPerm shape.parts

def accepts (shape : Shape) (roles : Roles) : Bool :=
  shape.fits roles && roles.isPartition shape.size

/-- Whether the roles are a partition of this shape. Refused if a vertex without
a place in a mask is met. -/
def accepts? (shape : Shape) (roles : Roles) : Option Bool :=
  if shape.fits roles then roles.isPartition? shape.size else some false

def rest (size : Nat) (used : List Nat) : List Nat :=
  (List.range size).filter fun vertex => !used.contains vertex

/-- Divides four vertices into two pairs. The first vertex is paired with the
one that has the given place among the other three. -/
def splitPairs (vertices : List Nat) (key : Nat) : List (List Nat) :=
  match vertices with
  | [] => []
  | first :: others =>
      let partner := others.getD key 0
      [[first, partner], others.filter (· ≠ partner)]

/-- The place among three vertices of the partner that a fourth one, the
first, has in one of two pairs. -/
def pairsKey? (vertices : List Nat) (pair other : List Nat) : Option Nat :=
  match vertices with
  | [] => none
  | first :: others => do
      let mine := if pair.contains first then pair else other
      let partner ← if (← mine[0]?) = first then mine[1]? else mine[0]?
      others.findIdx? (· == partner)

def sortByHead? (groups : List (List Nat)) : Option (List (List Nat)) :=
  if groups.any List.isEmpty then none else some (sortBy (·.getD 0 0) groups)

/-- The groups of the partition with the given number. -/
def groups? (shape : Shape) (number : Nat) : Option (List (List Nat)) :=
  match shape with
  | .whole size => some [rest size []]
  | .singleRest size => some [[number], rest size [number]]
  | .pairRest size => do
      let (a, b) ← pairOfRank? size number
      some [[a, b], rest size [a, b]]
  | .pairSingles => do
      let (a, b) ← pairOfRank? 4 number
      some ([a, b] :: (rest 4 [a, b]).map fun vertex => [vertex])
  | .twoPairs => some [[0, number + 1], rest 4 [0, number + 1]]
  | .singlePairPair =>
      let a := number / 3
      let b := (a + 1) % 5
      let c := (a + 2 + number % 3) % 5
      some [[a], [b, c], rest 5 [a, b, c]]
  | .singlePairTriple => do
      let a := number / 10
      let (b, c) ← pairOfRank? 5 (number % 10)
      let b := (b + a + 1) % 6
      let c := (c + a + 1) % 6
      some [[a], [b, c], rest 6 [a, b, c]]
  | .tripleTriple => do
      let (b, c) ← pairOfRank? 5 number
      some [[0, b + 1, c + 1], rest 6 [0, b + 1, c + 1]]
  | .threePairs =>
      let partner := number / 3 + 1
      some ([0, partner] :: splitPairs (rest 6 [0, partner]) (number % 3))
  | .tripleSingles => do
      let (a, b, c) ← (triples 6)[number]?
      some ([a, b, c] :: (rest 6 [a, b, c]).map fun vertex => [vertex])
  | .singlesPairs => do
      let (a, b) ← pairOfRank? 6 (number / 3)
      some ([a] :: [b] :: splitPairs (rest 6 [a, b]) (number % 3))
  | .orderedSinglesPairs =>
      let a := number / 3 / 5
      let b := number / 3 % 5
      let b := if a ≤ b then b + 1 else b
      some ([a] :: [b] :: splitPairs (rest 6 [a, b]) (number % 3))

/-- The largest number of vertices of a shape whose groups may all fit: a pair
and one more group. -/
def maxSize : Nat :=
  Roles.capacity + 2

def roles (shape : Shape) (number : Nat) : Except RolesFault Roles :=
  if !shape.isCountable then .error .unrepresentable
  else if shape.count ≤ number then .error .noSuchNumber
  else if maxSize < shape.size then .error .unrepresentable
  else
    match shape.groups? number with
    | none => .error .noSuchNumber
    | some groups =>
        match Roles.ofGroups? groups with
        | none => .error .unrepresentable
        | some roles => .ok roles

/-- The number of an accepted partition. There is none if a vertex is asked for
that is not there. -/
def rank? (shape : Shape) (roles : Roles) : Option Nat :=
  let vertex := roles.vertex?
  match shape with
  | .whole _ => some 0
  | .singleRest _ => vertex 1 0 0
  | .pairRest size => do some (pairRank size (← vertex 2 0 0) (← vertex 2 0 1))
  | .pairSingles => do some (pairRank 4 (← vertex 2 0 0) (← vertex 2 0 1))
  | .twoPairs => do
      let partner ← if (← vertex 2 0 0) = 0 then vertex 2 0 1 else vertex 2 1 1
      some (partner - 1)
  | .singlePairPair => do
      let single ← vertex 1 0 0
      let next := (single + 1) % 5
      let pair ← [roles.group 2 0, roles.group 2 1].find? (·.contains next)
      let far ← if (← pair[0]?) = next then pair[1]? else pair[0]?
      some (3 * single + (5 + far - next) % 5 - 1)
  | .singlePairTriple => do
      let a ← vertex 1 0 0
      let b := ((← vertex 2 0 0) + 5 - a) % 6
      let c := ((← vertex 2 0 1) + 5 - a) % 6
      some (10 * a + pairRank 5 (min b c) (max b c))
  | .tripleTriple => do
      let triple := if (roles.group 3 0).contains 0 then roles.group 3 0 else roles.group 3 1
      some (pairRank 5 ((← triple[1]?) - 1) ((← triple[2]?) - 1))
  | .threePairs => do
      let pairs ← sortByHead? ((List.range 3).map (roles.group 2))
      let partner ← (← pairs[0]?)[1]?
      let key ← pairsKey? (rest 6 [0, partner]) (← pairs[1]?) (← pairs[2]?)
      some (3 * (partner - 1) + key)
  | .tripleSingles => do
      let triple := (← vertex 3 0 0, ← vertex 3 0 1, ← vertex 3 0 2)
      (triples 6).findIdx? (· == triple)
  | .singlesPairs => do
      let first ← vertex 1 0 0
      let second ← vertex 1 1 0
      let a := min first second
      let b := max first second
      let key ← pairsKey? (rest 6 [a, b]) (roles.group 2 0) (roles.group 2 1)
      some (3 * pairRank 6 a b + key)
  | .orderedSinglesPairs => do
      let a ← vertex 1 0 0
      let b ← vertex 1 1 0
      let key ← pairsKey? (rest 6 [a, b]) (roles.group 2 0) (roles.group 2 1)
      some (3 * (5 * a + if b < a then b else b - 1) + key)

def number? (shape : Shape) (roles : Roles) : Option Nat :=
  if shape.accepts roles then shape.rank? roles else none

end Shape

end StabilizerPrep
