import StabilizerPrep.Proofs.PairRanks

/-!
# Graphs and their numbers

The bit of an edge is the rank of its two vertices, so packing and unpacking
undo each other: on at most eleven vertices, the simple graphs are in bijection
with the numbers below a power of two, and higher bits of a number are ignored.
-/

namespace StabilizerPrep.Graph

set_option autoImplicit false

open Mask

variable {graph : Graph}

theorem packed_lt (graph : Graph) :
    graph.packed < 2 ^ (graph.size * (graph.size - 1) / 2) := by
  refine Nat.lt_of_lt_of_eq (of_bits_lt _) ?_
  rw [List.length_map, length_pairs]

theorem test_bit_packed {first second : Nat} (below : first < second)
    (inside : second < graph.size) :
    graph.packed.testBit (pairRank graph.size first second) = graph.adjacent first second := by
  rw [packed, test_bit_of_bits, List.getD_eq_getElem?_getD, List.getElem?_map,
    getElem?_pairs_pair_rank below inside]
  rfl

theorem mem_edges_of_bits {size number first second : Nat} :
    (first, second) ∈ (((pairs size).zipIdx.filter fun (_, k) => number.testBit k).map (·.1)) ↔
      first < second ∧ second < size ∧ number.testBit (pairRank size first second) = true := by
  simp only [List.mem_map, List.mem_filter, Prod.exists, List.mem_zipIdx_iff_getElem?,
    getElem?_pairs_eq_some_iff]
  constructor
  · rintro ⟨_, _, _, ⟨⟨below, inside, rfl⟩, bit⟩, ⟨⟩⟩
    exact ⟨below, inside, bit⟩
  · rintro ⟨below, inside, bit⟩
    exact ⟨first, second, _, ⟨⟨below, inside, rfl⟩, bit⟩, rfl⟩

theorem adjacent_of_packed {size number first second : Nat} (below : first < second)
    (inside : second < size) :
    (ofPacked size number).adjacent first second =
      number.testBit (pairRank size first second) := by
  rw [Bool.eq_iff_iff, ofPacked, adjacent_of_edges, mem_edges_of_bits, mem_edges_of_bits]
  constructor
  · rintro ⟨-, -, -, ⟨-, -, bit⟩ | ⟨above, -⟩⟩
    · exact bit
    · omega
  · intro bit
    exact ⟨Nat.ne_of_lt below, Nat.lt_trans below inside, inside, .inl ⟨below, inside, bit⟩⟩

@[simp] theorem size_of_packed (size number : Nat) : (ofPacked size number).size = size :=
  size_of_edges _ _

/-- Packing what a number was unpacked to gives back the bits of all pairs. -/
theorem packed_of_packed (size number : Nat) :
    (ofPacked size number).packed = number % 2 ^ (size * (size - 1) / 2) := by
  have bound := packed_lt (ofPacked size number)
  rw [size_of_packed] at bound
  apply eq_of_test_bit_below bound (Nat.mod_lt _ (Nat.two_pow_pos _))
  intro rank inside
  obtain ⟨⟨first, second⟩, listed⟩ : ∃ pair, (pairs size)[rank]? = some pair :=
    ⟨_, List.getElem?_eq_getElem (by rwa [length_pairs])⟩
  obtain ⟨below, within, rfl⟩ := getElem?_pairs_eq_some_iff.1 listed
  have own := @test_bit_packed (ofPacked size number) first second below (by rwa [size_of_packed])
  rw [size_of_packed] at own
  rw [own, adjacent_of_packed below within, Nat.testBit_mod_two_pow, decide_eq_true inside,
    Bool.true_and]

/-- The number has 64 bits, and the bit at the rank of a pair of vertices tells
whether the two are joined. -/
def Encodes (graph : Graph) (number : Nat) : Prop :=
  ∀ first second, first < second → second < graph.size →
    ∃ rank < 64, pairRank? graph.size first second = some rank ∧
      number.testBit rank = graph.adjacent first second

theorem pair_rank_lt_of_le {size first second : Nat} (small : size ≤ maxCompressed)
    (below : first < second) (inside : second < size) : pairRank size first second < 64 :=
  calc
    pairRank size first second < triangle size := pair_rank_lt below inside
    _ ≤ triangle maxCompressed := triangle_mono small
    _ < 64 := by decide

theorem pair_rank?_of_le {size first second : Nat} (small : size ≤ maxCompressed)
    (below : first < second) (inside : second < size) :
    pairRank? size first second = some (pairRank size first second) := by
  have product : size * (size - 1) ≤ 11 * 10 := Nat.mul_le_mul small (Nat.sub_le_sub_right small 1)
  exact if_pos ⟨below, inside, Nat.lt_of_le_of_lt product (by decide)⟩

theorem encodes_of_bits {number : Nat} (small : graph.size ≤ maxCompressed)
    (bits : ∀ first second, first < second → second < graph.size →
      number.testBit (pairRank graph.size first second) = graph.adjacent first second) :
    graph.Encodes number := fun first second below inside =>
  ⟨_, pair_rank_lt_of_le small below inside, pair_rank?_of_le small below inside,
    bits first second below inside⟩

theorem compress_of_le (small : graph.size ≤ maxCompressed) :
    graph.compress = .ok graph.packed := by
  rw [compress, checkCompressible, if_neg (Nat.not_lt.2 small)]
  rfl

theorem check_compressible_of_lt {size : Nat} (large : maxCompressed < size) :
    checkCompressible size = .error (.graphTooLarge size maxCompressed) :=
  if_pos large

/-- Simple graphs on at most eleven vertices and numbers with one bit for each
pair of vertices are in bijection. The number of a graph has no other bits, tells
at the rank of each pair whether it is joined, and is unpacked to the same graph.
Every number at all is unpacked to a simple graph, whose own number is what
remains of it without the bits beyond the last pair. On more than eleven
vertices both directions are refused. -/
theorem compression_bijective :
    (∀ graph : Graph, graph.Simple → graph.size ≤ 11 → ∃ number,
      graph.compress = .ok number ∧
      number < 2 ^ (graph.size * (graph.size - 1) / 2) ∧
      graph.Encodes number ∧ decompress graph.size number = .ok graph) ∧
    (∀ size number : Nat, size ≤ 11 → ∃ graph,
      decompress size number = .ok graph ∧ graph.size = size ∧ graph.Simple ∧
      graph.Encodes number ∧
      graph.compress = .ok (number % 2 ^ (size * (size - 1) / 2))) ∧
    (∀ graph : Graph, 11 < graph.size →
      graph.compress = .error (.graphTooLarge graph.size 11)) ∧
    ∀ size number : Nat, 11 < size →
      decompress size number = .error (.graphTooLarge size 11) := by
  refine ⟨?_, ?_, ?_, ?_⟩
  · intro graph simple small
    have back := decompress_of_le small graph.packed
    rw [of_packed_packed simple] at back
    exact ⟨graph.packed, compress_of_le small, packed_lt graph,
      encodes_of_bits small fun _ _ => test_bit_packed, back⟩
  · intro size number small
    have sized := size_of_packed size number
    have fits : (ofPacked size number).size ≤ maxCompressed := by rwa [sized]
    refine ⟨ofPacked size number, decompress_of_le small number, sized, simple_of_edges _ _, ?_, ?_⟩
    · apply encodes_of_bits fits
      rw [sized]
      exact fun _ _ below inside => (adjacent_of_packed below inside).symm
    · rw [compress_of_le fits, packed_of_packed]
  · intro graph large
    rw [compress, check_compressible_of_lt large]
    rfl
  · intro size number large
    rw [decompress, check_compressible_of_lt large]
    rfl

/-- The complete graph on eleven vertices has all 55 bits, a number of 64 ones
has only six that matter on four vertices, and twelve vertices are too many. -/
theorem compression_bijective_complete :
    decompress 11 (full 55) = .ok (complete 11) ∧
    (∃ graph, decompress 4 (full 64) = .ok graph ∧ graph.Encodes (full 64) ∧
      graph.compress = .ok (full 6)) ∧
    (path 12).compress = .error (.graphTooLarge 12 11) ∧
    decompress 12 0 = .error (.graphTooLarge 12 11) := by
  obtain ⟨packs, unpacks, refuses, refused⟩ := compression_bijective
  have size : (complete 11).size = 11 := size_of_edges _ _
  have ones : (complete 11).compress = .ok (full 55) := by decide +kernel
  obtain ⟨number, taken, -, -, back⟩ := packs (complete 11) (simple_of_edges _ _) (by rw [size])
  obtain rfl := Except.ok.inj (ones.symm.trans taken)
  rw [size] at back
  obtain ⟨graph, made, -, -, encoded, again⟩ := unpacks 4 (full 64) (by decide)
  have low : full 64 % 2 ^ (4 * (4 - 1) / 2) = full 6 := by decide
  rw [low] at again
  have large : (path 12).size = 12 := by decide +kernel
  have tooLarge := refuses (path 12) (by rw [large]; decide)
  rw [large] at tooLarge
  exact ⟨back, ⟨graph, made, encoded, again⟩, tooLarge, refused 12 0 (by decide)⟩

end StabilizerPrep.Graph
