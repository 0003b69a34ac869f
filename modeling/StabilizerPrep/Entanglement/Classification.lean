import StabilizerPrep.Entanglement.Distribution

/-!
# Classification

The class of a valid stabilizer state on two to six qubits, read off its local
invariants. For each size the number of entangled qubits and the number of
elements of full weight nearly determine the structure; the sets on which
elements are the identity tell the roles of the vertices.
-/

namespace StabilizerPrep.Invariants

set_option autoImplicit false

private def members (mask : Nat) : List Nat :=
  Roles.groupOfMask mask

private def badEntangled (invariants : Invariants) : Checked LocalClass :=
  invariants.unrecognized s!"{invariants.entangled.length} entangled qubits"

private def badFullWeight (invariants : Invariants) : Checked LocalClass :=
  let count := invariants.fullWeight
  let entangled := invariants.entangled.length
  invariants.unrecognized
    s!"{count} full-weight elements with {entangled} entangled qubits"

def classifyTwo (invariants : Invariants) : Checked LocalClass :=
  match invariants.entangled.length with
  | 0 => invariants.build (.two .separable) [invariants.whole]
  | 2 => invariants.build (.two .entangled) [invariants.whole]
  | _ => invariants.badEntangled

def classifyThree (invariants : Invariants) : Checked LocalClass :=
  match invariants.entangled.length with
  | 0 => invariants.build (.three .separable) [invariants.whole]
  | 2 => invariants.build (.three .pair) [invariants.free, invariants.entangled]
  | 3 => invariants.build (.three .triple) [invariants.whole]
  | _ => invariants.badEntangled

/-- The partner of qubit zero: an element that acts only on the other two
qubits of a pair division tells which division it is. -/
def partnerOfZero (invariants : Invariants) : Checked Nat := do
  let distribution := invariants.distribution
  if (← distribution.count? 0b0011) ≠ 0 then return 1
  else if (← distribution.count? 0b0101) ≠ 0 then return 2
  else if (← distribution.count? 0b0110) ≠ 0 then return 3
  else invariants.unrecognized "no weight-two element"

def classifyFour (invariants : Invariants) : Checked LocalClass := do
  match invariants.entangled.length with
  | 0 => invariants.build (.four .separable) [invariants.whole]
  | 2 =>
      invariants.build (.four .pair)
        [invariants.entangled, ← invariants.freeSingle 0, ← invariants.freeSingle 1]
  | 3 => invariants.build (.four .triple) [invariants.free, invariants.entangled]
  | 4 =>
      let distribution := invariants.distribution
      if (← distribution.count? 0b0011) ≠ 0 ∧ (← distribution.count? 0b0110) ≠ 0 then
        invariants.build (.four .star) [invariants.whole]
      else
        let partner ← invariants.partnerOfZero
        let pairs := [[0, partner], invariants.rest (Mask.single partner ||| 1)]
        match invariants.fullWeight with
        | 9 => invariants.build (.four .twoPairs) pairs
        | 5 => invariants.build (.four .line) pairs
        | count => invariants.unrecognized s!"{count} full-weight elements"
  | _ => invariants.badEntangled

/-- The pairs of qubits below five on which exactly `count` elements are the
identity. -/
def pairsWith (invariants : Invariants) (count : Nat) : Checked (List Nat) :=
  ((pairs 5).map fun (first, second) => Mask.single first ||| Mask.single second).filterM
    fun mask => do return (← invariants.distribution.count? mask) == count

/-- The two pairs on which `count` elements are the identity, behind the
remaining qubit. -/
def singleAndPairs (invariants : Invariants) (count : Nat) : Checked (List (List Nat)) := do
  let (first, second) ← invariants.twoSets "identity pairs" (← invariants.pairsWith count)
  return [invariants.rest (first ||| second), members first, members second]

def classifyFive (invariants : Invariants) : Checked LocalClass := do
  let distribution := invariants.distribution
  let entangled := invariants.entangled
  let free := invariants.free
  match entangled.length, invariants.fullWeight with
  | 0, _ => invariants.build (.five .separable) [invariants.whole]
  | 2, _ => invariants.build (.five .pair) [entangled, free]
  | 3, _ => invariants.build (.five .triple) [entangled, free]
  | 4, 9 =>
      let lone ← (free[0]? : Option Nat)
      let trial :=
        Mask.single lone ||| Mask.single ((lone + 1) % 5) ||| Mask.single ((lone + 2) % 5)
      match ← distribution.count? trial with
      | 1 => invariants.build (.five .star4) [free, entangled]
      | 0 | 3 => invariants.build (.five .twoPairs) (← invariants.singleAndPairs 3)
      | count => invariants.unrecognized s!"{count} elements on trial set"
  | 4, 5 => invariants.build (.five .line4) (← invariants.singleAndPairs 1)
  | 5, 16 => invariants.build (.five .star) [invariants.whole]
  | 5, 12 =>
      let pair ← invariants.oneSet "identity pairs" (← invariants.pairsWith 4)
      invariants.build (.five .pairAndTriple) [members pair, invariants.rest pair]
  | 5, 10 =>
      let stem ← (List.range 5).filterM fun qubit => do
        return (← distribution.count? (Mask.single qubit)) == 4
      invariants.build (.five .t) [stem, invariants.rest (Roles.groupMask stem)]
  | 5, 8 => invariants.build (.five .line) (← invariants.singleAndPairs 2)
  | 5, 6 => invariants.build (.five .cycle) [invariants.whole]
  | _, _ => invariants.badFullWeight

/-- The path on five qubits and a free one: its middle carries five elements,
and its ends are the pairs that carry two. -/
def classifyLineOfFive (invariants : Invariants) : Checked LocalClass := do
  let apart := fun mask => mask &&& invariants.freeMask == 0
  let inner := invariants.distribution.filter fun (mask, _) => apart mask
  let (first, second) ← invariants.twoSets "end pairs" (Distribution.withBoth inner 2 2)
  let middle ← invariants.firstOf (Distribution.lastWithCount inner 5)
  invariants.build (.six .line5) [invariants.free, middle, members first, members second]

/-- Decides whether the two middles of a path on six qubits change places:
once for each set of three that carries two elements and holds the first end
and the middle that is currently second. -/
def orientMiddles (ends : Nat) : Distribution → Nat × Nat → Nat × Nat
  | [], middles => middles
  | (mask, count) :: others, (first, second) =>
      let crossed :=
        count == 2 && Mask.weight mask == 3 && mask &&& ends == ends && mask.testBit second
      orientMiddles ends others (if crossed then (second, first) else (first, second))

/-- The path on six qubits: its middles are the only single qubits that carry
six elements, and the two sets of four consist of the middles and an end. -/
def classifyLineOfSix (invariants : Invariants) : Checked LocalClass :=
  let distribution := invariants.distribution
  match distribution.withBoth 1 6, distribution.withWeight 4 with
  | [firstMask, secondMask], [firstHalf, secondHalf] => do
      let both := firstMask ||| secondMask
      let firstEnd := firstHalf ^^^ both
      let secondEnd := secondHalf ^^^ both
      let (first, second) := orientMiddles firstEnd distribution
        ((Mask.lowest? firstMask).getD 0, (Mask.lowest? secondMask).getD 0)
      match members firstEnd, members secondEnd with
      | a :: atail, b :: btail =>
          if b < a then
            invariants.build (.six .line6) [[second], [first], b :: btail, a :: atail]
          else
            invariants.build (.six .line6) [[first], [second], a :: atail, b :: btail]
      | _, _ => invariants.unrecognized "path ends not found"
  | _, _ => invariants.unrecognized "path middle not found"

/-- The two triples of a structure in which six pairs overlap within a
triple. -/
def gatherTriples : List Nat → Nat × Nat → Nat × Nat
  | [], found => found
  | mask :: others, (first, second) =>
      gatherTriples others
        (if mask &&& first = 0 then (first, second ||| mask) else (first ||| mask, second))

def classifyThirteen (invariants : Invariants) : Checked LocalClass :=
  let distribution := invariants.distribution
  match distribution.withCount 5 with
  | [pair] => do
      let hub ← invariants.firstOf pair
      let hubMask := Roles.groupMask hub
      let triples := (distribution.withWeight 3).take 4
      if triples.length ≠ 4 then invariants.miscount 4 "weight-three sets" triples
      else
        let wings := (triples.filter fun mask => mask &&& hubMask != 0).map (· ^^^ hubMask)
        let (first, second) ← invariants.twoSets "wings" wings
        let other ← invariants.firstOf (pair ^^^ hubMask)
        invariants.build (.six .e) [hub, other, members first, members second]
  | [first, second, third] =>
      invariants.build (.six .box4) [members first, members second, members third]
  | masks => invariants.unrecognized s!"{masks.length} five-element sets"

def classifyPendant (invariants : Invariants) : Checked LocalClass := do
  let distribution := invariants.distribution
  let (first, second) ←
    invariants.twoSets "pendant vertices" ((distribution.withBoth 1 2).take 2)
  let arms := distribution.select fun mask _ =>
    Mask.weight mask == 3 && mask &&& first != 0 && mask &&& second == 0
  let (left, right) ←
    invariants.twoSets "pendant pairs" ((arms.map (· ^^^ first)).take 2)
  let firstSingle ← invariants.firstOf first
  let secondSingle ← invariants.firstOf second
  invariants.build (.six .box5) [members left, members right, firstSingle, secondSingle]

def classifySix (invariants : Invariants) : Checked LocalClass := do
  let distribution := invariants.distribution
  let entangled := invariants.entangled
  let free := invariants.free
  match entangled.length, invariants.fullWeight with
  | 0, _ => invariants.build (.six .separable) [invariants.whole]
  | 2, _ => invariants.build (.six .pair) [entangled, free]
  | 3, _ =>
      invariants.build (.six .triple)
        [entangled, ← invariants.freeSingle 0, ← invariants.freeSingle 1,
          ← invariants.freeSingle 2]
  | 4, 5 =>
      let (first, second) ←
        invariants.twoSets "weight-two singletons" (distribution.withBoth 2 1)
      invariants.build (.six .line4)
        [← invariants.freeSingle 0, ← invariants.freeSingle 1, members first, members second]
  | 4, 9 =>
      match distribution.withBoth 2 3 with
      | [] => invariants.build (.six .star4) [entangled, free]
      | [first, second] =>
          invariants.build (.six .twoPairs)
            [← invariants.freeSingle 0, ← invariants.freeSingle 1, members first, members second]
      | masks => invariants.unrecognized s!"{masks.length} weight-two triples"
  | 5, 6 => invariants.build (.six .cycle5) [free, entangled]
  | 5, 8 => invariants.classifyLineOfFive
  | 5, 10 =>
      let (first, second) ← invariants.twoSets "arm vertices" (distribution.withBoth 1 4)
      let arm := first ||| second
      invariants.build (.six .t)
        [free, members arm, invariants.rest (arm ||| invariants.freeMask)]
  | 5, 12 =>
      match distribution.withBoth 2 4 with
      | [] => invariants.unrecognized "pair not found"
      | pair :: _ =>
          invariants.build (.six .pairAndTriple)
            [free, members pair, invariants.rest (pair ||| invariants.freeMask)]
  | 5, 16 => invariants.build (.six .star5) [free, entangled]
  | 6, 10 =>
      let (first, second, third) ←
        invariants.threeSets "three-element sets" (distribution.withCount 3)
      invariants.build (.six .cycle6) [members first, members second, members third]
  | 6, 11 => invariants.classifyPendant
  | 6, 12 => invariants.classifyLineOfSix
  | 6, 13 => invariants.classifyThirteen
  | 6, 14 =>
      let arm := distribution.lastWithCount 4
      let joint ← invariants.firstOf (distribution.lastWithCount 8)
      invariants.build (.six .t6)
        [members arm, joint, invariants.rest (arm ||| Roles.groupMask joint)]
  | 6, 15 =>
      let (first, second) ← invariants.twoSets "arms" (distribution.withBoth 2 3)
      match members (distribution.lastWithCount 5) with
      | [a, b] =>
          invariants.build (.six .line4AndPair) [[a], [b], members first, members second]
      | _ => invariants.unrecognized "isolated pair not found"
  | 6, 16 =>
      let (first, second) ← invariants.twoSets "triples" ((distribution.withBoth 3 4).take 2)
      invariants.build (.six .twoTriples) [members first, members second]
  | 6, 17 =>
      let (first, second) ←
        invariants.twoSets "eight-element sets" ((distribution.withCount 8).take 2)
      let star := first ||| second
      invariants.build (.six .cross) [members star, invariants.rest star]
  | 6, 18 => invariants.build (.six .ame) [invariants.whole]
  | 6, 21 =>
      let (first, second, third) ←
        invariants.threeSets "five-element sets" ((distribution.withCount 5).take 3)
      invariants.build (.six .eBar) [members first, members second, members third]
  | 6, 24 =>
      let masks := (distribution.withCount 4).take 6
      if masks.length ≠ 6 then invariants.miscount 6 "four-element sets" masks
      else
        let (first, second) := gatherTriples masks (← (masks[0]? : Option Nat), 0)
        invariants.build (.six .h) [members first, members second]
  | 6, 27 =>
      match distribution.withCount 9 with
      | [first, second, third] =>
          invariants.build (.six .threePairs) [members first, members second, members third]
      | [pair] => invariants.build (.six .star4AndPair) [members pair, invariants.rest pair]
      | masks => invariants.unrecognized s!"{masks.length} nine-element sets"
  | 6, 33 => invariants.build (.six .star6) [invariants.whole]
  | _, _ => invariants.badFullWeight

/-- The class that the invariants of a state on two to six qubits belong to. -/
def classify (invariants : Invariants) : Checked LocalClass :=
  match invariants.qubits with
  | 2 => invariants.classifyTwo
  | 3 => invariants.classifyThree
  | 4 => invariants.classifyFour
  | 5 => invariants.classifyFive
  | _ => invariants.classifySix

end StabilizerPrep.Invariants

namespace StabilizerPrep

set_option autoImplicit false

/-- The local Clifford class of a stabilizer state. There is no outcome if
classification reads outside a list or a table. -/
def classify? (stabilizer : Stabilizer) : Option (Except Fault LocalClass) := ExceptT.run do
  Device.checkQubits stabilizer.qubits
  stabilizer.validate
  let invariants ← (Invariants.ofStabilizer? stabilizer : Option Invariants)
  invariants.classify

def classify (stabilizer : Stabilizer) : Except Fault LocalClass :=
  (classify? stabilizer).getD
    (.error (.invalidStabilizer (.unrecognized stabilizer.qubits "read out of range")))

end StabilizerPrep
