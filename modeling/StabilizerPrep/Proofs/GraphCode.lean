import Mathlib.Data.List.GetD
import StabilizerPrep.Graph.Compressed
import StabilizerPrep.Proofs.Bits

/-!
# Graphs from their edges

A graph is determined by which vertices are joined. So a simple graph is built
from its edges, and from the number into which they are packed.
-/

namespace StabilizerPrep

set_option autoImplicit false

theorem mem_pairs {bound first second : Nat} :
    (first, second) ∈ pairs bound ↔ first < second ∧ second < bound := by
  simp only [pairs, interval, List.mem_flatMap, List.mem_range, List.mem_map, List.mem_range'_1,
    Prod.mk.injEq]
  constructor
  · rintro ⟨_, _, _, inside, rfl, rfl⟩
    omega
  · rintro ⟨below, inside⟩
    exact ⟨first, by omega, second, by omega, rfl, rfl⟩

namespace Graph

open Mask

variable {graph : Graph}

theorem eq_of_adjacent {other : Graph} (size : graph.size = other.size)
    (same : ∀ first second, graph.adjacent first second = other.adjacent first second) :
    graph = other := by
  have equal : ∀ vertex, graph.neighbourhood vertex = other.neighbourhood vertex := fun vertex =>
    Nat.eq_of_testBit_eq (same vertex)
  obtain ⟨masks⟩ := graph
  obtain ⟨others⟩ := other
  congr 1
  apply List.ext_getElem size
  intro vertex inside otherInside
  have own := equal vertex
  rwa [neighbourhood, neighbourhood, List.getD_eq_getElem _ _ inside,
    List.getD_eq_getElem _ _ otherInside] at own

@[simp] theorem size_add_edge (graph : Graph) (first second : Nat) :
    (graph.addEdge first second).size = graph.size := by
  rw [addEdge]
  split
  · rfl
  · simp [size]

theorem adjacent_modify (masks : List Nat) (vertex member first second : Nat) :
    (Graph.mk (masks.modify vertex (· ||| single member))).adjacent first second =
      ((Graph.mk masks).adjacent first second ||
        decide (vertex < masks.length ∧ first = vertex ∧ second = member)) := by
  simp only [adjacent, neighbourhood, List.getD_eq_getElem?_getD, List.getElem?_modify]
  by_cases own : vertex = first
  · subst own
    by_cases inside : vertex < masks.length
    · simp [inside, Nat.testBit_or, eq_comm]
    · simp [inside]
  · cases masks[first]? <;> simp [own, Ne.symm own]

theorem adjacent_add_edge (graph : Graph) (first second one two : Nat) :
    (graph.addEdge first second).adjacent one two = true ↔
      graph.adjacent one two = true ∨
        one ≠ two ∧ one < graph.size ∧ two < graph.size ∧
          ((one, two) = (first, second) ∨ (two, one) = (first, second)) := by
  rw [addEdge]
  split
  next idle =>
      constructor
      · exact .inl
      · rintro (joined | ⟨apart, oneInside, twoInside, same⟩)
        · exact joined
        · simp only [Prod.mk.injEq] at same
          omega
  next active =>
      rw [adjacent_modify, adjacent_modify, List.length_modify]
      simp only [Bool.or_eq_true, decide_eq_true_eq, Prod.mk.injEq, or_assoc]
      apply or_congr Iff.rfl
      change (first < graph.size ∧ _ ∨ second < graph.size ∧ _) ↔ _
      omega

theorem size_foldl_add_edge (edges : List (Nat × Nat)) (graph : Graph) :
    (edges.foldl (fun graph edge => graph.addEdge edge.1 edge.2) graph).size = graph.size := by
  induction edges generalizing graph with
  | nil => rfl
  | cons edge edges ih => rw [List.foldl_cons, ih, size_add_edge]

@[simp] theorem size_empty (size : Nat) : (empty size).size = size :=
  List.length_replicate

@[simp] theorem size_of_edges (size : Nat) (edges : List (Nat × Nat)) :
    (ofEdges size edges).size = size :=
  (size_foldl_add_edge edges (empty size)).trans (size_empty size)

theorem adjacent_empty (size first second : Nat) : (empty size).adjacent first second = false := by
  have blank : (List.replicate size 0).getD first 0 = 0 := by
    cases found : (List.replicate size 0)[first]? with
    | none => rw [List.getD_eq_getElem?_getD, found, Option.getD_none]
    | some mask =>
        rw [List.getD_eq_getElem?_getD, found, Option.getD_some]
        exact List.eq_of_mem_replicate (List.mem_of_getElem? found)
  rw [adjacent, neighbourhood, empty, blank, Nat.zero_testBit]

theorem adjacent_of_edges (size : Nat) (edges : List (Nat × Nat)) (one two : Nat) :
    (ofEdges size edges).adjacent one two = true ↔
      one ≠ two ∧ one < size ∧ two < size ∧ ((one, two) ∈ edges ∨ (two, one) ∈ edges) := by
  have run : ∀ graph : Graph,
      (edges.foldl (fun graph edge => graph.addEdge edge.1 edge.2) graph).adjacent one two = true ↔
        graph.adjacent one two = true ∨ one ≠ two ∧ one < graph.size ∧ two < graph.size ∧
          ((one, two) ∈ edges ∨ (two, one) ∈ edges) := by
    induction edges with
    | nil => simp
    | cons edge edges ih =>
        intro graph
        rw [List.foldl_cons, ih, adjacent_add_edge, size_add_edge, List.mem_cons, List.mem_cons]
        grind
  have start := run (empty size)
  simp only [adjacent_empty, size_empty, Bool.false_eq_true, false_or] at start
  exact start

theorem mem_edges {first second : Nat} :
    (first, second) ∈ graph.edges ↔
      first < second ∧ second < graph.size ∧ graph.adjacent first second = true := by
  rw [edges, List.mem_filter, mem_pairs, and_assoc]

theorem lt_of_adjacent (simple : graph.Simple) {first second : Nat}
    (joined : graph.adjacent first second = true) : second < graph.size := by
  apply Nat.lt_of_not_le
  intro outside
  rw [adjacent, test_bit_beyond (simple.1 first) outside] at joined
  cases joined

theorem simple_of_adjacent
    (inside : ∀ first second, graph.adjacent first second = true → second < graph.size)
    (apart : ∀ first second, graph.adjacent first second = true → first ≠ second)
    (symmetric : ∀ first second, graph.adjacent first second = true →
      graph.adjacent second first = true) : graph.Simple := by
  refine ⟨fun vertex => ?_, fun vertex => ?_, fun first second => ?_⟩
  · apply Nat.lt_pow_two_of_testBit
    intro other beyond
    rw [Bool.eq_false_iff]
    exact fun joined => Nat.not_lt.2 beyond (inside vertex other joined)
  · rw [Bool.eq_false_iff]
    exact fun joined => apart vertex vertex joined rfl
  · rw [Bool.eq_iff_iff]
    exact ⟨symmetric first second, symmetric second first⟩

theorem ne_of_adjacent (simple : graph.Simple) {first second : Nat}
    (joined : graph.adjacent first second = true) : first ≠ second := by
  rintro rfl
  rw [simple.2.1] at joined
  cases joined

theorem neighbourhood_beyond {vertex : Nat} (outside : graph.size ≤ vertex) :
    graph.neighbourhood vertex = 0 :=
  List.getD_eq_default _ _ outside

theorem simple_iff_below :
    graph.Simple ↔
      (∀ vertex < graph.size, graph.neighbourhood vertex < 2 ^ graph.size) ∧
        (∀ vertex < graph.size, graph.adjacent vertex vertex = false) ∧
        ∀ first < graph.size, ∀ second < graph.size,
          graph.adjacent first second = graph.adjacent second first := by
  constructor
  · rintro ⟨bounded, loopless, symmetric⟩
    exact ⟨fun vertex _ => bounded vertex, fun vertex _ => loopless vertex,
      fun first _ second _ => symmetric first second⟩
  · rintro ⟨bounded, loopless, symmetric⟩
    have inside : ∀ first second, graph.adjacent first second = true →
        first < graph.size ∧ second < graph.size := by
      intro first second joined
      have firstInside : first < graph.size := by
        refine Nat.lt_of_not_le fun outside => ?_
        rw [adjacent, neighbourhood_beyond outside, Nat.zero_testBit] at joined
        cases joined
      refine ⟨firstInside, Nat.lt_of_not_le fun outside => ?_⟩
      rw [adjacent, test_bit_beyond (bounded first firstInside) outside] at joined
      cases joined
    apply simple_of_adjacent
    · exact fun first second joined => (inside first second joined).2
    · rintro first _ joined rfl
      rw [loopless first (inside first first joined).1] at joined
      cases joined
    · intro first second joined
      rwa [symmetric second (inside first second joined).2 first (inside first second joined).1]

theorem simple_empty (size : Nat) : (empty size).Simple := by
  apply simple_of_adjacent
  all_goals
    intro first second joined
    rw [adjacent_empty] at joined
    cases joined

theorem simple_add_edge (simple : graph.Simple) (first second : Nat) :
    (graph.addEdge first second).Simple := by
  apply simple_of_adjacent
  all_goals
    intro one two joined
    rw [adjacent_add_edge] at joined
  · rw [size_add_edge]
    rcases joined with old | ⟨-, -, inside, -⟩
    · exact lt_of_adjacent simple old
    · exact inside
  · rcases joined with old | ⟨apart, -⟩
    · exact ne_of_adjacent simple old
    · exact apart
  · rw [adjacent_add_edge]
    rcases joined with old | ⟨apart, oneInside, twoInside, same⟩
    · exact .inl (simple.2.2 one two ▸ old)
    · exact .inr ⟨apart.symm, twoInside, oneInside, same.symm⟩

theorem simple_of_edges (size : Nat) (edges : List (Nat × Nat)) : (ofEdges size edges).Simple := by
  have run : ∀ graph : Graph, graph.Simple →
      (edges.foldl (fun graph edge => graph.addEdge edge.1 edge.2) graph).Simple := by
    induction edges with
    | nil => exact fun _ simple => simple
    | cons edge edges ih => exact fun graph simple => ih _ (simple_add_edge simple _ _)
  exact run (empty size) (simple_empty size)

theorem of_edges_edges (simple : graph.Simple) : ofEdges graph.size graph.edges = graph := by
  apply eq_of_adjacent (size_of_edges _ _)
  intro one two
  rw [Bool.eq_iff_iff, adjacent_of_edges, mem_edges, mem_edges, simple.2.2 two one]
  constructor
  · rintro ⟨-, -, -, ⟨-, -, joined⟩ | ⟨-, -, joined⟩⟩
    · exact joined
    · exact joined
  · intro joined
    have apart := ne_of_adjacent simple joined
    have twoInside := lt_of_adjacent simple joined
    have oneInside : one < graph.size := by
      rw [simple.2.2] at joined
      exact lt_of_adjacent simple joined
    refine ⟨apart, oneInside, twoInside, ?_⟩
    rcases Nat.lt_or_gt_of_ne apart with below | above
    · exact .inl ⟨below, twoInside, joined⟩
    · exact .inr ⟨above, oneInside, joined⟩

theorem filter_test_bit_of_bits {α : Type} (items : List α) (test : α → Bool) :
    (items.zipIdx.filter fun (_, k) => (ofBits (items.map test)).testBit k).map (·.1) =
      items.filter test := by
  have each : ∀ entry ∈ items.zipIdx,
      (ofBits (items.map test)).testBit entry.2 = test entry.1 := by
    rintro ⟨item, k⟩ member
    have found := List.mem_zipIdx_iff_getElem?.1 member
    rw [test_bit_of_bits, List.getD_eq_getElem?_getD, List.getElem?_map, found]
    rfl
  rw [List.filter_congr each, ← Function.comp_def test Prod.fst, ← List.filter_map,
    List.zipIdx_map_fst]

theorem of_packed_packed (simple : graph.Simple) : ofPacked graph.size graph.packed = graph := by
  rw [ofPacked, packed, filter_test_bit_of_bits]
  exact of_edges_edges simple

theorem decompress_of_le {size : Nat} (small : size ≤ maxCompressed) (number : Nat) :
    decompress size number = .ok (ofPacked size number) := by
  rw [decompress, checkCompressible, if_neg (Nat.not_lt.2 small)]
  rfl

end Graph

end StabilizerPrep
