import Mathlib.Data.List.Nodup
import Mathlib.Data.Nat.Choose.Basic
import StabilizerPrep.Proofs.GraphCode

/-!
# Ranks of pairs

The pairs below a bound are listed by their first members: after those that
start at the first number come the pairs of all later ones. So their number is
that of a triangle, and the rank of a pair is the place at which it is listed.
Counting down along the first members finds the pair again, and a machine word
that holds the number of ordered pairs holds all that the rank is computed from.
-/

namespace StabilizerPrep

set_option autoImplicit false

def triangle (count : Nat) : Nat :=
  count * (count - 1) / 2

theorem triangle_succ (count : Nat) : triangle (count + 1) = triangle count + count :=
  Nat.triangle_succ count

theorem triangle_mono {less more : Nat} (le : less ≤ more) : triangle less ≤ triangle more :=
  Nat.div_le_div_right (Nat.mul_le_mul le (Nat.sub_le_sub_right le 1))

/-- The pairs whose members are at least `first`, where `count` numbers are left
from there on. -/
def pairsFrom (first : Nat) : Nat → List (Nat × Nat)
  | 0 => []
  | count + 1 =>
      (List.range' (first + 1) count).map (fun second => (first, second)) ++
        pairsFrom (first + 1) count

theorem pairs_eq_pairs_from (bound : Nat) : pairs bound = pairsFrom 0 bound := by
  have rows : ∀ count first, ((List.range' first count).flatMap fun start =>
      (interval (start + 1) (first + count)).map fun second => (start, second)) =
        pairsFrom first count := by
    intro count
    induction count with
    | zero => exact fun _ => rfl
    | succ count ih =>
        intro first
        have own : interval (first + 1) (first + (count + 1)) = List.range' (first + 1) count := by
          rw [interval]
          congr 1
          omega
        have later := ih (first + 1)
        rw [Nat.add_right_comm, Nat.add_assoc] at later
        rw [List.range'_succ, List.flatMap_cons, own, later, pairsFrom]
  have all := rows bound 0
  rwa [Nat.zero_add, ← List.range_eq_range'] at all

theorem length_pairs_from (first count : Nat) :
    (pairsFrom first count).length = triangle count := by
  induction count generalizing first with
  | zero => rfl
  | succ count ih =>
      rw [pairsFrom, List.length_append, List.length_map, List.length_range', ih, triangle_succ,
        Nat.add_comm]

theorem length_pairs (bound : Nat) : (pairs bound).length = bound * (bound - 1) / 2 := by
  rw [pairs_eq_pairs_from, length_pairs_from, triangle]

/-- A pair is listed behind those that start before it, at the place of its
second member. -/
theorem getElem?_pairs_from {first count one two : Nat} (start : first ≤ one) (below : one < two)
    (inside : two < first + count) :
    (pairsFrom first count)[triangle count - triangle (first + count - one) + (two - one - 1)]? =
      some (one, two) := by
  induction count generalizing first with
  | zero => omega
  | succ count ih =>
      rw [pairsFrom]
      rcases Nat.eq_or_lt_of_le start with rfl | later
      · have place : triangle (count + 1) - triangle (first + (count + 1) - first) +
            (two - first - 1) = two - first - 1 := by
          rw [Nat.add_sub_cancel_left, Nat.sub_self, Nat.zero_add]
        rw [place, List.getElem?_append_left (by simp; omega), List.getElem?_map,
          List.getElem?_range' (by omega)]
        simp only [Option.map_some, Nat.one_mul]
        congr 2
        omega
      · have fewer : first + (count + 1) - one = first + 1 + count - one := by omega
        have mono : triangle (first + 1 + count - one) ≤ triangle count :=
          triangle_mono (by omega)
        have place : triangle (count + 1) - triangle (first + (count + 1) - one) +
            (two - one - 1) = count +
              (triangle count - triangle (first + 1 + count - one) + (two - one - 1)) := by
          rw [fewer, triangle_succ]
          omega
        rw [place, List.getElem?_append_right (by simp), List.length_map, List.length_range',
          Nat.add_sub_cancel_left]
        exact ih later (by omega)

theorem getElem?_pairs_pair_rank {bound first second : Nat} (below : first < second)
    (inside : second < bound) :
    (pairs bound)[pairRank bound first second]? = some (first, second) := by
  have place : pairRank bound first second =
      triangle bound - triangle (0 + bound - first) + (second - first - 1) := by
    rw [Nat.zero_add, pairRank, triangle, triangle]
    omega
  rw [pairs_eq_pairs_from, place]
  exact getElem?_pairs_from (Nat.zero_le first) below (by omega)

theorem pair_rank_lt {bound first second : Nat} (below : first < second) (inside : second < bound) :
    pairRank bound first second < bound * (bound - 1) / 2 := by
  have listed := getElem?_pairs_pair_rank below inside
  rw [← length_pairs]
  exact (List.getElem?_eq_some_iff.1 listed).1

theorem nodup_pairs (bound : Nat) : (pairs bound).Nodup := by
  rw [pairs, List.nodup_flatMap]
  constructor
  · intro first _
    exact (List.nodup_range' 1).map fun one two same => (Prod.mk.inj same).2
  · refine List.nodup_range.imp fun apart => ?_
    intro pair inFirst inSecond
    obtain ⟨_, -, rfl⟩ := List.mem_map.1 inFirst
    obtain ⟨_, -, same⟩ := List.mem_map.1 inSecond
    exact apart (Prod.mk.inj same).1.symm

theorem getElem?_pairs_eq_some_iff {bound rank first second : Nat} :
    (pairs bound)[rank]? = some (first, second) ↔
      first < second ∧ second < bound ∧ rank = pairRank bound first second := by
  constructor
  · intro listed
    obtain ⟨below, inside⟩ := mem_pairs.1 (List.mem_of_getElem? listed)
    have own := getElem?_pairs_pair_rank below inside
    refine ⟨below, inside, ?_⟩
    exact (List.getElem?_inj (List.getElem?_eq_some_iff.1 listed).1 (nodup_pairs bound)).1
      (listed.trans own.symm)
  · rintro ⟨below, inside, rfl⟩
    exact getElem?_pairs_pair_rank below inside

/-- Counting down finds what is listed at the rank. -/
theorem pair_from?_eq_getElem? (first count rank : Nat) :
    pairFrom? first count rank = (pairsFrom first count)[rank]? := by
  induction count generalizing first rank with
  | zero => rfl
  | succ count ih =>
      rw [pairFrom?, pairsFrom]
      split
      next own =>
          rw [List.getElem?_append_left (by simpa using own), List.getElem?_map,
            List.getElem?_range' own, Nat.one_mul]
          rfl
      next later =>
          rw [List.getElem?_append_right (by simpa using later), List.length_map,
            List.length_range', ih]

theorem pair_of_rank?_eq_getElem? (bound rank : Nat) :
    pairOfRank? bound rank = (pairs bound)[rank]? := by
  rw [pairOfRank?, pair_from?_eq_getElem?, pairs_eq_pairs_from]

theorem pair_of_rank?_eq_some_iff {bound rank first second : Nat} :
    pairOfRank? bound rank = some (first, second) ↔
      first < second ∧ second < bound ∧ rank = pairRank bound first second := by
  rw [pair_of_rank?_eq_getElem?, getElem?_pairs_eq_some_iff]

theorem pair_of_rank?_eq_none_iff {bound rank : Nat} :
    pairOfRank? bound rank = none ↔ bound * (bound - 1) / 2 ≤ rank := by
  rw [pair_of_rank?_eq_getElem?, List.getElem?_eq_none_iff, length_pairs]

def difference? (minuend subtrahend : Nat) : Option Nat :=
  if subtrahend ≤ minuend then some (minuend - subtrahend) else none

theorem difference?_of_le {minuend subtrahend : Nat} (le : subtrahend ≤ minuend) :
    difference? minuend subtrahend = some (minuend - subtrahend) :=
  if_pos le

def word? (width number : Nat) : Option Nat :=
  if number < 2 ^ width then some number else none

theorem word?_of_lt {width number : Nat} (fits : number < 2 ^ width) :
    word? width number = some number :=
  if_pos fits

/-- The rank of a pair computed in words, step by step from left to right. The
first step whose result is no word ends the computation. -/
def pairRankInWords? (width bound first second : Nat) : Option Nat := do
  let ordered ← word? width (bound * (← difference? bound 1))
  let left ← difference? bound first
  let later ← word? width (left * (← difference? left 1))
  let earlier ← difference? (ordered / 2) (later / 2)
  let reached ← word? width (earlier + second)
  difference? (← difference? reached first) 1

/-- If the ordered pairs are counted by a word, no step leaves the word or goes
below zero. -/
theorem pair_rank_in_words?_of_lt {width bound first second : Nat} (below : first < second)
    (inside : second < bound) (fits : bound * (bound - 1) < 2 ^ width) :
    pairRankInWords? width bound first second = some (pairRank bound first second) := by
  have fewer : (bound - first) * (bound - first - 1) ≤ bound * (bound - 1) :=
    Nat.mul_le_mul (Nat.sub_le bound first) (by omega)
  have halves : (bound - first) * (bound - first - 1) / 2 ≤ bound * (bound - 1) / 2 :=
    Nat.div_le_div_right fewer
  -- the place of the second member is below half of the ordered pairs, two numbers apart
  have place : bound * (bound - 1) / 2 - (bound - first) * (bound - first - 1) / 2 + second ≤
      bound * (bound - 1) := by
    rcases Nat.lt_or_ge 2 bound with many | two
    · have double : bound * 2 ≤ bound * (bound - 1) := Nat.mul_le_mul_left bound (by omega)
      omega
    · obtain rfl : bound = 2 := by omega
      omega
  have downOne := difference?_of_le (show 1 ≤ bound by omega)
  have ordered := word?_of_lt fits
  have left := difference?_of_le (show first ≤ bound by omega)
  have leftOne := difference?_of_le (show 1 ≤ bound - first by omega)
  have later := word?_of_lt (Nat.lt_of_le_of_lt fewer fits)
  have earlier := difference?_of_le halves
  have reached := word?_of_lt (Nat.lt_of_le_of_lt place fits)
  have fromFirst := difference?_of_le (show first ≤ bound * (bound - 1) / 2 -
    (bound - first) * (bound - first - 1) / 2 + second by omega)
  simp only [pairRankInWords?, Option.bind_eq_bind, Option.bind_some, downOne, ordered, left,
    leftOne, later, earlier, reached, fromFirst]
  exact difference?_of_le (by omega)

theorem pair_rank?_eq_in_words {bound first second : Nat} (below : first < second)
    (inside : second < bound) :
    pairRank? bound first second = pairRankInWords? 64 bound first second := by
  by_cases fits : bound * (bound - 1) < 2 ^ 64
  · rw [pair_rank_in_words?_of_lt below inside fits, pairRank?, if_pos ⟨below, inside, fits⟩]
  · have downOne := difference?_of_le (show 1 ≤ bound by omega)
    have ordered : word? 64 (bound * (bound - 1)) = none := if_neg fits
    rw [pairRank?, if_neg fun tests => fits tests.2.2]
    simp only [pairRankInWords?, Option.bind_eq_bind, Option.bind_some, Option.bind_none, downOne,
      ordered]

/-- The ranks of the pairs below any bound are the numbers below half of the
number of ordered pairs, and every rank has its pair: both directions undo each
other, and behind the last rank there is no pair. In words that hold the number
of ordered pairs, no step of the rank goes below zero or leaves the word. -/
theorem pairs_numbered :
    (∀ bound first second : Nat, first < second → second < bound →
      pairOfRank? bound (pairRank bound first second) = some (first, second) ∧
      pairRank bound first second < bound * (bound - 1) / 2 ∧
      pairRank? bound first second = pairRankInWords? 64 bound first second ∧
      ∀ width, bound * (bound - 1) < 2 ^ width →
        pairRankInWords? width bound first second = some (pairRank bound first second)) ∧
    (∀ bound rank : Nat, rank < bound * (bound - 1) / 2 → ∃ first second,
      pairOfRank? bound rank = some (first, second) ∧ first < second ∧ second < bound ∧
      pairRank bound first second = rank) ∧
    ∀ bound rank : Nat, bound * (bound - 1) / 2 ≤ rank → pairOfRank? bound rank = none := by
  refine ⟨?_, ?_, fun _ _ => pair_of_rank?_eq_none_iff.2⟩
  · intro bound first second below inside
    exact ⟨pair_of_rank?_eq_some_iff.2 ⟨below, inside, rfl⟩, pair_rank_lt below inside,
      pair_rank?_eq_in_words below inside, fun _ => pair_rank_in_words?_of_lt below inside⟩
  · intro bound rank counted
    obtain ⟨⟨first, second⟩, found⟩ : ∃ pair, pairOfRank? bound rank = some pair := by
      rw [← Option.ne_none_iff_exists', Ne, pair_of_rank?_eq_none_iff]
      exact Nat.not_le.2 counted
    obtain ⟨below, inside, same⟩ := pair_of_rank?_eq_some_iff.1 found
    exact ⟨first, second, found, below, inside, same.symm⟩

/-- The last pair below the greatest bound whose ordered pairs are counted by 64
bits, the pair at the last rank below five, and the rank behind it. -/
theorem pairs_numbered_last :
    (pairRankInWords? 64 (2 ^ 32) (2 ^ 32 - 2) (2 ^ 32 - 1) =
        some (2 ^ 63 - 2 ^ 31 - 1) ∧
      pairOfRank? (2 ^ 32) (2 ^ 63 - 2 ^ 31 - 1) =
        some (2 ^ 32 - 2, 2 ^ 32 - 1)) ∧
    (∃ first second, pairOfRank? 5 9 = some (first, second) ∧ first < second ∧ second < 5 ∧
      pairRank 5 first second = 9) ∧
    pairOfRank? 5 10 = none := by
  obtain ⟨ranked, listed, ended⟩ := pairs_numbered
  have rank : pairRank (2 ^ 32) (2 ^ 32 - 2) (2 ^ 32 - 1) =
      2 ^ 63 - 2 ^ 31 - 1 := by decide
  obtain ⟨back, -, -, fits⟩ :=
    ranked (2 ^ 32) (2 ^ 32 - 2) (2 ^ 32 - 1) (by decide) (by decide)
  have inWords := fits 64 (by decide)
  rw [rank] at back inWords
  exact ⟨⟨inWords, back⟩, listed 5 9 (by decide), ended 5 10 (by decide)⟩

end StabilizerPrep
