import Mathlib.Algebra.BigOperators.Group.List.Basic
import StabilizerPrep.Proofs.Board
import StabilizerPrep.Proofs.Invariance

/-!
# Invariants of graph states

The local invariants of the graph state of a board, in a form that is quick to
evaluate: the elements of the group are run through by adding one generator
after the other, and the numbers of elements by identity set are the bytes of
one number.
-/

namespace StabilizerPrep.Stabilizer

set_option autoImplicit false

open Mask

theorem is_entangled_of_graph_iff {graph : Graph} (simple : graph.Simple) (qubit : Nat) :
    (ofGraph graph).isEntangled qubit = true ↔
      ∃ vertex < graph.size, graph.adjacent vertex qubit = true := by
  constructor
  · intro entangled
    obtain ⟨first, firstIn, second, secondIn, clash⟩ :=
      (is_entangled_iff_generators qubit).1 entangled
    obtain ⟨v, vInside, firstX, firstZ⟩ := mem_generators_of_graph simple firstIn
    obtain ⟨w, wInside, secondX, secondZ⟩ := mem_generators_of_graph simple secondIn
    rw [clashes, firstX, firstZ, secondX, secondZ, ← Graph.adjacent, ← Graph.adjacent] at clash
    cases joined : graph.adjacent v qubit with
    | true => exact ⟨v, vInside, joined⟩
    | false =>
        rw [joined, Bool.false_and, Bool.bne_false, Bool.and_eq_true] at clash
        exact ⟨w, wInside, clash.2⟩
  · rintro ⟨vertex, inside, joined⟩
    have below := Graph.lt_of_adjacent simple joined
    have loop := simple.2.1 qubit
    rw [Graph.adjacent] at joined loop
    refine (is_entangled_iff qubit).2 ⟨_, _, _, _, contains_neighbourhood simple below,
      contains_neighbourhood simple inside, ?_⟩
    rw [clashes, loop, joined, test_bit_single, Bool.false_and, Bool.bne_false, Bool.and_true]
    exact decide_eq_true rfl

end StabilizerPrep.Stabilizer

namespace StabilizerPrep.Board

set_option autoImplicit false

open Mask StabilizerPrep.Matrix

def byte (table index : Nat) : Nat :=
  Nat.mod (Nat.shiftRight table (Nat.mul 8 index)) 256

theorem byte_eq (table index : Nat) :
    byte table index = table / 2 ^ (8 * index) % 256 := by
  change table >>> (8 * index) % 256 = _
  rw [Nat.shiftRight_eq_div_pow]

theorem byte_add {table index amount : Nat} (room : byte table index + amount < 256)
    (other : Nat) :
    byte (table + 2 ^ (8 * index) * amount) other =
      byte table other + if index = other then amount else 0 := by
  have quotient : (table + 2 ^ (8 * index) * amount) / 2 ^ (8 * index) =
      table / 2 ^ (8 * index) + amount :=
    Nat.add_mul_div_left table amount (Nat.two_pow_pos _)
  rw [byte_eq] at room
  simp only [byte_eq]
  rcases Nat.lt_trichotomy index other with below | same | above
  · -- the quotient by the raised byte is not carried into the next one
    obtain ⟨gap, rfl⟩ := Nat.exists_eq_add_of_lt below
    have exponent : 8 * (index + gap + 1) = 8 * index + (8 + 8 * gap) := by omega
    have kept : (table / 2 ^ (8 * index) + amount) / 256 =
        table / 2 ^ (8 * index) / 256 := by omega
    rw [exponent, Nat.pow_add, Nat.pow_add, show 2 ^ 8 = 256 from rfl, ← Nat.div_div_eq_div_mul,
      ← Nat.div_div_eq_div_mul, ← Nat.div_div_eq_div_mul, ← Nat.div_div_eq_div_mul, quotient,
      kept, if_neg (by omega), Nat.add_zero]
  · subst same
    rw [quotient, if_pos rfl]
    omega
  · obtain ⟨gap, rfl⟩ := Nat.exists_eq_add_of_lt above
    have exponent : 8 * (other + gap + 1) = 8 * other + (8 + 8 * gap) := by omega
    have positive : 0 < 2 ^ (8 * other) := Nat.two_pow_pos _
    rw [exponent, Nat.pow_add, Nat.pow_add, show 2 ^ 8 = 256 from rfl, Nat.mul_assoc, Nat.mul_assoc,
      Nat.add_mul_div_left _ _ positive, if_neg (by omega)]
    omega

theorem byte_sum {members : List Nat} (short : members.length ≤ 255) (index : Nat) :
    byte ((members.map fun member => 2 ^ (8 * member)).sum) index =
      members.count index := by
  induction members generalizing index with
  | nil => simp [byte_eq]
  | cons first members ih =>
      have shorter : members.length < 255 := short
      have room : byte ((members.map fun member => 2 ^ (8 * member)).sum) first + 1 <
          256 := by
        rw [ih (by omega)]
        exact Nat.succ_lt_succ (Nat.lt_of_le_of_lt List.count_le_length shorter)
      have raised := byte_add room index
      rw [Nat.mul_one] at raised
      rw [List.map_cons, List.sum_cons, Nat.add_comm, raised, ih (by omega), List.count_cons]
      simp

def tally (whole : Nat) : List (Nat × Nat) → Nat → Nat → Nat
  | [], x, z => Nat.shiftLeft 1 (Nat.mul 8 (Nat.xor whole (Nat.lor x z)))
  | row :: rows, x, z =>
      Nat.add (tally whole rows x z) (tally whole rows (Nat.xor x row.1) (Nat.xor z row.2))

theorem tally_eq (whole : Nat) (rows : List (Nat × Nat)) (x z : Nat) :
    tally whole rows x z =
      ((List.range (2 ^ rows.length)).map fun selection =>
        2 ^ (8 * (whole ^^^ ((x ^^^ combine (rows.map (·.1)) selection) |||
          (z ^^^ combine (rows.map (·.2)) selection))))).sum := by
  induction rows generalizing x z with
  | nil =>
      change 1 <<< (8 * (whole ^^^ (x ||| z))) = _
      rw [Nat.one_shiftLeft, List.length_nil, show List.range (2 ^ 0) = [0] from rfl]
      simp [combine]
  | cons row rows ih =>
      have double : 2 ^ (row :: rows).length = 2 ^ rows.length * 2 := rfl
      change tally whole rows x z + tally whole rows (x ^^^ row.1) (z ^^^ row.2) = _
      rw [ih, ih, double, Stabilizer.range_double, List.map_flatMap, List.flatMap_def,
        List.sum_flatten, List.map_map, ← List.sum_map_add]
      congr 1
      apply List.map_congr_left
      intro k _
      simp only [List.map_cons, List.map_nil, combine_cons_double, combine_cons_double_add_one,
        Function.comp_apply, List.sum_cons, List.sum_nil, Nat.add_zero, Nat.xor_assoc]

/-- The number of elements for each identity set, as bytes. -/
def counts (size board : Nat) : Nat :=
  tally (full size) ((List.range size).map fun vertex => (single vertex, row board vertex)) 0 0

/-- The bytes of a table below an index that are not zero, with their places,
before the given entries. -/
def entries (table : Nat) : Nat → Distribution → Distribution
  | 0, found => found
  | index + 1, found =>
      entries table index
        (bif Nat.beq (byte table index) 0 then found else (index, byte table index) :: found)

def joined (size board : Nat) : Nat :=
  (List.range size).foldr (fun vertex mask => Nat.lor (row board vertex) mask) 0

def survey (size board : Nat) : Invariants where
  qubits := size
  entangledMask := joined size board
  distribution := entries (counts size board) (2 ^ size) []

theorem entries_eq (table bound : Nat) (found : Distribution) :
    entries table bound found =
      ((List.range bound).map fun index => (index, byte table index)).filter
        (fun entry => entry.2 != 0) ++ found := by
  induction bound generalizing found with
  | zero => rfl
  | succ bound ih =>
      rw [entries, ih, List.range_succ, List.map_append, List.filter_append, List.append_assoc]
      congr 1
      cases value : byte table bound with
      | zero => simp [value]
      | succ count =>
          simp only [List.map_cons, List.map_nil, value]
          rfl

variable {size board : Nat}

theorem counts_eq (simple : (graph size board).Simple) (index : Nat) (small : size ≤ 6) :
    byte (counts size board) index =
      ((Stabilizer.ofGraph (graph size board)).elements.map Pauli.identityMask).count index := by
  have length : ((List.range size).map fun vertex => (single vertex, row board vertex)).length =
      size := by simp
  have few : 2 ^ size ≤ 64 := Nat.pow_le_pow_right (by decide) small
  have identity : ∀ selection ∈ List.range (2 ^ size),
      (Stabilizer.ofGraph (graph size board)).identityOf selection =
        full size ^^^ ((0 ^^^ combine ((List.range size).map single) selection) |||
          (0 ^^^ combine ((List.range size).map (row board)) selection)) := by
    intro selection _
    have neighbours : (graph size board).neighbourhoods = (List.range size).map (row board) := rfl
    have xBound : combine ((List.range size).map single) selection < 2 ^ size := by
      rw [combine_singles]
      exact Nat.mod_lt _ (Nat.two_pow_pos _)
    have zBound : combine ((List.range size).map (row board)) selection < 2 ^ size := by
      have bounded := Stabilizer.neighbourhood_lt simple
      rw [size_graph, neighbours] at bounded
      exact combine_lt bounded selection
    rw [Stabilizer.identityOf, Stabilizer.qubits_of_graph, size_graph, Stabilizer.xs_of_graph,
      Stabilizer.zs_of_graph simple, size_graph, neighbours, Nat.zero_xor, Nat.zero_xor]
    congr 1
    exact Nat.mod_eq_of_lt (Nat.or_lt_two_pow xBound zBound)
  rw [Stabilizer.identity_masks_elements, Stabilizer.qubits_of_graph, size_graph,
    List.map_congr_left identity, ← byte_sum (by simpa using Nat.le_trans few (by decide)),
    List.map_map, counts, tally_eq, length, List.map_map, List.map_map]
  rfl

theorem test_bit_joined (size board qubit : Nat) :
    (joined size board).testBit qubit =
      (List.range size).any fun vertex => (row board vertex).testBit qubit := by
  rw [joined]
  induction List.range size with
  | nil => simp
  | cons vertex vertices ih =>
      rw [List.foldr_cons, List.any_cons, ← ih]
      exact Nat.testBit_or _ _ _

theorem joined_eq (simple : (graph size board).Simple) :
    joined size board = (Stabilizer.ofGraph (graph size board)).entangledMask := by
  apply Nat.eq_of_testBit_eq
  intro qubit
  rw [test_bit_joined, Stabilizer.entangledMask, test_bit_of_test, Stabilizer.qubits_of_graph,
    size_graph, Bool.eq_iff_iff, Bool.and_eq_true, decide_eq_true_eq, List.any_eq_true,
    Stabilizer.is_entangled_of_graph_iff simple, size_graph]
  constructor
  · rintro ⟨vertex, member, joins⟩
    have inside := List.mem_range.1 member
    have joined : (graph size board).adjacent vertex qubit = true := by
      rwa [Graph.adjacent, neighbourhood_graph inside]
    have below := Graph.lt_of_adjacent simple joined
    rw [size_graph] at below
    exact ⟨below, vertex, inside, joined⟩
  · rintro ⟨-, vertex, inside, joined⟩
    rw [Graph.adjacent, neighbourhood_graph inside] at joined
    exact ⟨vertex, List.mem_range.2 inside, joined⟩

theorem survey_eq (simple : (graph size board).Simple) (small : size ≤ 6) :
    survey size board = Invariants.ofStabilizer (.ofGraph (graph size board)) := by
  have same : entries (counts size board) (2 ^ size) [] =
      Distribution.ofStabilizer (.ofGraph (graph size board)) := by
    rw [entries_eq, List.append_nil]
    simp only [Distribution.ofStabilizer, Stabilizer.qubits_of_graph, size_graph]
    congr 1
    apply List.map_congr_left
    intro index _
    rw [counts_eq simple index small]
  rw [survey, Invariants.ofStabilizer, joined_eq simple, same, Stabilizer.qubits_of_graph,
    size_graph]

end StabilizerPrep.Board
