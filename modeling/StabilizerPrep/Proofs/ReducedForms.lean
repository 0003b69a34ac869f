import Mathlib.Data.List.Sort
import Mathlib.LinearAlgebra.Dimension.Constructions
import StabilizerPrep.Proofs.RowTransforms
import StabilizerPrep.Proofs.SolutionSpaces

/-!
# Reduced row-echelon forms

A reduced form is determined by the sums of its rows: the pivots are the columns
that lead such sums, and a sum that misses all of them is zero. Elimination ends
in a reduced form, and its transform can be undone, so no sum of rows is lost or
won on the way. Hence matrices that arise from each other by invertible mixing
of rows have the same form, and its leading rows are a basis of the row space.
-/

namespace StabilizerPrep.Matrix

set_option autoImplicit false

open Mask

/-- The mask is the sum of some of the rows. -/
def Spans (rows : List Nat) (mask : Nat) : Prop :=
  ∃ selection, combine rows selection = mask

theorem spans_getD (rows : List Nat) (i : Nat) : Spans rows (rows.getD i 0) :=
  ⟨single i, combine_single rows i⟩

theorem spans_mul_iff {mixing matrix : Matrix} (invertible : mixing.IsInvertible matrix.height)
    (mask : Nat) : Spans (mixing.mul matrix).rows mask ↔ Spans matrix.rows mask := by
  obtain ⟨-, -, inverse, -, -, -, undone⟩ := invertible
  constructor
  · rintro ⟨selection, rfl⟩
    exact ⟨combine mixing.rows selection, (combine_rows_mul mixing matrix selection).symm⟩
  · rintro ⟨selection, rfl⟩
    refine ⟨combine inverse.rows (selection % 2 ^ matrix.height), ?_⟩
    rw [combine_rows_mul, ← combine_rows_mul inverse, undone,
      combine_rows_identity (Nat.mod_lt _ (Nat.two_pow_pos _))]
    exact combine_mod matrix.rows selection

/-- Where the selected rows have no one, neither has their sum. -/
theorem test_bit_combine_eq_false (matrix : Matrix) {selection column : Nat}
    (missed : ∀ i, selection.testBit i = true → matrix.entry i column = false) :
    (combine matrix.rows selection).testBit column = false := by
  have common : selection &&& ofBits (matrix.rows.map (·.testBit column)) = 0 := by
    apply Nat.eq_of_testBit_eq
    intro i
    rw [Nat.testBit_and, test_bit_column, Nat.zero_testBit]
    cases chosen : selection.testBit i with
    | false => rfl
    | true => exact missed i chosen
  rw [test_bit_combine, dot, common, parity_zero]

namespace Echelon

/-- The first rows have a pivot each, further to the right from row to row: it is
the first one of its row and the only one of its column. The other rows are
zero. -/
structure IsReduced (echelon : Echelon) : Prop where
  ascending : echelon.pivots.Pairwise (· < ·)
  leading : ∀ k (inside : k < echelon.pivots.length),
    echelon.matrix.entry k echelon.pivots[k] = true ∧
      ∀ column < echelon.pivots[k], echelon.matrix.entry k column = false
  alone : ∀ k (inside : k < echelon.pivots.length),
    ∀ i ≠ k, echelon.matrix.entry i echelon.pivots[k] = false
  zero : ∀ i, echelon.pivots.length ≤ i → ∀ column, echelon.matrix.entry i column = false

variable {echelon other : Echelon}

theorem IsReduced.entry_pivot (reduced : echelon.IsReduced) {k : Nat}
    (inside : k < echelon.pivots.length) (i : Nat) :
    echelon.matrix.entry i echelon.pivots[k] = decide (k = i) := by
  by_cases own : k = i
  · subst own
    rw [(reduced.leading k inside).1, decide_eq_true rfl]
  · rw [reduced.alone k inside i (Ne.symm own), decide_eq_false own]

theorem IsReduced.test_bit_combine_pivot (reduced : echelon.IsReduced) (selection : Nat) {k : Nat}
    (inside : k < echelon.pivots.length) :
    (combine echelon.matrix.rows selection).testBit echelon.pivots[k] = selection.testBit k := by
  have column : ofBits (echelon.matrix.rows.map (·.testBit echelon.pivots[k])) = single k := by
    apply Nat.eq_of_testBit_eq
    intro i
    rw [test_bit_column, reduced.entry_pivot inside, test_bit_single]
  rw [test_bit_combine, column, dot_single_right]

theorem IsReduced.combine_eq_zero (reduced : echelon.IsReduced) {selection : Nat}
    (missed : ∀ k < echelon.pivots.length, selection.testBit k = false) :
    combine echelon.matrix.rows selection = 0 := by
  apply Nat.eq_of_testBit_eq
  intro column
  rw [Nat.zero_testBit]
  apply test_bit_combine_eq_false
  intro i chosen
  apply reduced.zero
  by_contra inside
  rw [missed i (Nat.lt_of_not_le inside)] at chosen
  cases chosen

/-- A sum of rows can only start at a pivot. -/
theorem IsReduced.mem_pivots_of_leads (reduced : echelon.IsReduced) {mask column : Nat}
    (spanned : Spans echelon.matrix.rows mask) (hit : mask.testBit column = true)
    (before : ∀ earlier < column, mask.testBit earlier = false) : column ∈ echelon.pivots := by
  obtain ⟨selection, rfl⟩ := spanned
  by_contra absent
  have zero : (combine echelon.matrix.rows selection).testBit column = false := by
    apply test_bit_combine_eq_false
    intro i chosen
    by_cases inside : i < echelon.pivots.length
    · rcases Nat.lt_trichotomy echelon.pivots[i] column with earlier | same | later
      · have bit := before _ earlier
        rw [reduced.test_bit_combine_pivot selection inside, chosen] at bit
        cases bit
      · exact absurd (same ▸ List.getElem_mem inside) absent
      · exact (reduced.leading i inside).2 column later
    · exact reduced.zero i (Nat.le_of_not_lt inside) column
  rw [zero] at hit
  cases hit

theorem IsReduced.pivots_subset (reduced : echelon.IsReduced) (otherReduced : other.IsReduced)
    (spanned : ∀ mask, Spans echelon.matrix.rows mask → Spans other.matrix.rows mask) :
    echelon.pivots ⊆ other.pivots := by
  intro pivot member
  obtain ⟨k, inside, rfl⟩ := List.mem_iff_getElem.1 member
  obtain ⟨hit, before⟩ := reduced.leading k inside
  exact otherReduced.mem_pivots_of_leads (spanned _ (spans_getD _ k)) hit before

/-- Reduced forms of one size are equal if their rows have the same sums. -/
theorem IsReduced.eq_of_spans (reduced : echelon.IsReduced) (otherReduced : other.IsReduced)
    (heights : echelon.matrix.height = other.matrix.height)
    (columns : echelon.matrix.columns = other.matrix.columns)
    (same : ∀ mask, Spans echelon.matrix.rows mask ↔ Spans other.matrix.rows mask) :
    echelon = other := by
  have pivots : echelon.pivots = other.pivots :=
    List.Subset.antisymm_of_pairwise reduced.ascending otherReduced.ascending
      (reduced.pivots_subset otherReduced fun mask => (same mask).1)
      (otherReduced.pivots_subset reduced fun mask => (same mask).2)
  obtain ⟨matrix, pivots⟩ := echelon
  obtain ⟨otherMatrix, otherPivots⟩ := other
  subst pivots
  congr 1
  apply eq_of_entries heights columns
  intro i _ column _
  by_cases inside : i < pivots.length
  · obtain ⟨selection, sum⟩ := (same _).1 (spans_getD matrix.rows i)
    -- of the rows with a pivot, only the one in the same place is part of the sum
    have none : combine otherMatrix.rows (selection ^^^ single i) = 0 := by
      apply otherReduced.combine_eq_zero
      intro k below
      have bit := otherReduced.test_bit_combine_pivot selection below
      rw [sum] at bit
      have chosen : selection.testBit k = decide (k = i) :=
        bit.symm.trans (reduced.entry_pivot below i)
      rw [Nat.testBit_xor, test_bit_single, chosen, decide_eq_decide.2 eq_comm, Bool.xor_self]
    rw [combine_xor, combine_single, sum, Nat.xor_eq_zero_iff] at none
    rw [entry, none, entry]
  · rw [reduced.zero i (Nat.le_of_not_lt inside), otherReduced.zero i (Nat.le_of_not_lt inside)]

end Echelon

variable (matrix : Matrix)

theorem rows_echelon_append :
    matrix.echelon.matrix.rows =
      matrix.eliminate.reduced.map (·.entries) ++ matrix.eliminate.pending.map (·.entries) := by
  rw [rows_echelon, Elimination.rows, List.map_append]

theorem height_echelon : matrix.echelon.matrix.height = matrix.height := by
  rw [← transform_mul, height_mul, height_transform_basis_change]

theorem spans_echelon_iff (mask : Nat) :
    Spans matrix.echelon.matrix.rows mask ↔ Spans matrix.rows mask := by
  rw [← transform_mul]
  exact spans_mul_iff matrix.is_invertible_transform mask

theorem lead_mem {k : Nat} (inside : k < matrix.echelon.pivots.length) :
    (matrix.echelon.matrix.rows.getD k 0, matrix.echelon.pivots[k]) ∈ matrix.eliminate.leads := by
  have lengths := matrix.eliminate_echelonized.lengths
  have below : k < matrix.echelon.matrix.rows.length := by
    rw [rows_echelon_append, List.length_append, List.length_map, lengths]
    exact Nat.lt_add_right _ inside
  rw [← echelon_zip_pivots, List.getD_eq_getElem _ _ below, List.mem_iff_getElem]
  exact ⟨k, by rw [List.length_zip]; omega, List.getElem_zip⟩

theorem getD_rows_echelon_of_le {i : Nat} (beyond : matrix.echelon.pivots.length ≤ i) :
    matrix.echelon.matrix.rows.getD i 0 = 0 := by
  have lengths : matrix.eliminate.reduced.length ≤ i := by
    rw [matrix.eliminate_echelonized.lengths]
    exact beyond
  have zero : ∀ mask ∈ matrix.eliminate.pending.map (·.entries), mask = 0 :=
    List.forall_mem_map.2 matrix.eliminate_pending_zero
  rw [rows_echelon_append, List.getD_append_right _ _ _ _ (by simpa using lengths),
    List.getD_eq_getElem?_getD]
  cases found : (matrix.eliminate.pending.map (·.entries))[
      i - (matrix.eliminate.reduced.map (·.entries)).length]? with
  | none => rfl
  | some mask => exact zero mask (List.mem_of_getElem? found)

theorem is_reduced_echelon : matrix.echelon.IsReduced := by
  have shape := matrix.eliminate_echelonized
  have zero : ∀ i, matrix.echelon.pivots.length ≤ i → ∀ column,
      matrix.echelon.matrix.entry i column = false := by
    intro i beyond column
    rw [entry, matrix.getD_rows_echelon_of_le beyond, Nat.zero_testBit]
  refine ⟨shape.ascending, ?_, ?_, zero⟩
  · intro k inside
    exact ⟨shape.leading _ (matrix.lead_mem inside), shape.before _ (matrix.lead_mem inside)⟩
  · intro k inside i apart
    by_cases below : i < matrix.echelon.pivots.length
    · refine shape.apart _ (matrix.lead_mem below) _ (List.getElem_mem inside) ?_
      intro same
      exact apart ((matrix.pivots_nodup.getElem_inj_iff.1 same).symm)
    · exact zero i (Nat.le_of_not_lt below) _

/-- The form depends on nothing but the size of the matrix and the sums of its
rows. -/
theorem echelon_eq_of_spans {first second : Matrix} (heights : first.height = second.height)
    (columns : first.columns = second.columns)
    (same : ∀ mask, Spans first.rows mask ↔ Spans second.rows mask) :
    first.echelon = second.echelon := by
  apply first.is_reduced_echelon.eq_of_spans second.is_reduced_echelon
  · rw [height_echelon, height_echelon, heights]
  · exact columns
  · intro mask
    rw [spans_echelon_iff, spans_echelon_iff, same]

def combinations (width : Nat) (rows : List Nat) : Submodule (ZMod 2) (Fin width → ZMod 2) :=
  Submodule.span (ZMod 2) (Set.range fun i : Fin rows.length => toVector width (rows.get i))

def rowSpace : Submodule (ZMod 2) (Fin matrix.columns → ZMod 2) :=
  combinations matrix.columns matrix.rows

theorem mem_combinations_iff {width : Nat} {rows : List Nat} {vector : Fin width → ZMod 2} :
    vector ∈ combinations width rows ↔ ∃ mask, Spans rows mask ∧ toVector width mask = vector := by
  rw [combinations, Submodule.mem_span_range_iff_exists_fun]
  constructor
  · rintro ⟨factors, sum⟩
    obtain ⟨selection, -, rfl⟩ := exists_to_vector factors
    exact ⟨_, ⟨selection, rfl⟩, (to_vector_combine width rows selection).trans sum⟩
  · rintro ⟨_, ⟨selection, rfl⟩, rfl⟩
    exact ⟨toVector rows.length selection, (to_vector_combine width rows selection).symm⟩

theorem combine_append_of_zero {rest : List Nat} (zero : ∀ row ∈ rest, row = 0) (rows : List Nat)
    (selection : Nat) : combine (rows ++ rest) selection = combine rows selection := by
  induction rows generalizing selection with
  | nil =>
      have bounded : ∀ row ∈ rest, row < 2 ^ 0 := by
        intro row member
        rw [zero row member]
        decide
      exact Nat.lt_one_iff.1 (combine_lt bounded selection)
  | cons row rows ih => rw [List.cons_append, combine, combine, ih]

def leadingRows : List Nat :=
  matrix.eliminate.reduced.map (·.entries)

theorem length_leading_rows : matrix.leadingRows.length = matrix.rank := by
  rw [leadingRows, List.length_map]
  exact matrix.eliminate_echelonized.lengths

theorem combine_rows_echelon (selection : Nat) :
    combine matrix.echelon.matrix.rows selection = combine matrix.leadingRows selection := by
  rw [rows_echelon_append]
  apply combine_append_of_zero
  rw [List.forall_mem_map]
  exact matrix.eliminate_pending_zero

theorem row_space_eq_combinations :
    matrix.rowSpace = combinations matrix.columns matrix.leadingRows := by
  have spans : ∀ mask, Spans matrix.rows mask ↔ Spans matrix.leadingRows mask := by
    intro mask
    rw [← spans_echelon_iff]
    exact exists_congr fun selection => by rw [combine_rows_echelon]
  ext vector
  rw [rowSpace, mem_combinations_iff, mem_combinations_iff]
  simp only [spans]

theorem linear_independent_leading_rows :
    LinearIndependent (ZMod 2) fun k : Fin matrix.leadingRows.length =>
      toVector matrix.columns (matrix.leadingRows.get k) := by
  apply linear_independent_of_combine
  · rw [leadingRows, List.forall_mem_map]
    exact fun row member => matrix.eliminate_bounded row (List.mem_append_left _ member)
  · intro first firstBound second secondBound same
    rw [← combine_rows_echelon, ← combine_rows_echelon] at same
    apply eq_of_test_bit_below firstBound secondBound
    intro k inside
    rw [length_leading_rows] at inside
    rw [← matrix.is_reduced_echelon.test_bit_combine_pivot first inside,
      ← matrix.is_reduced_echelon.test_bit_combine_pivot second inside, same]

/-- The rows with a pivot are a basis of the row space. -/
theorem finrank_row_space : Module.finrank (ZMod 2) matrix.rowSpace = matrix.rank := by
  rw [row_space_eq_combinations, combinations]
  rw [finrank_span_eq_card matrix.linear_independent_leading_rows, Fintype.card_fin]
  exact matrix.length_leading_rows

/-- Elimination brings a matrix of any size into reduced row-echelon form, with
the pivots in ascending order. With the transform come two square matrices that
undo each other, the first of which sends the matrix to its form. The number of
pivots is the dimension of the row space, and mixing the rows by an invertible
matrix changes neither form nor pivots. -/
theorem echelon_canonical :
    (matrix.echelon.matrix.height = matrix.height ∧
      matrix.echelon.matrix.columns = matrix.columns ∧ matrix.echelon.IsReduced) ∧
    (matrix.basisChange.echelon = matrix.echelon ∧
      (matrix.basisChange.transform.height = matrix.height ∧
        matrix.basisChange.transform.columns = matrix.height) ∧
      (matrix.basisChange.inverse.height = matrix.height ∧
        matrix.basisChange.inverse.columns = matrix.height) ∧
      matrix.basisChange.transform.mul matrix = matrix.echelon.matrix ∧
      matrix.basisChange.transform.mul matrix.basisChange.inverse = identity matrix.height ∧
      matrix.basisChange.inverse.mul matrix.basisChange.transform = identity matrix.height) ∧
    Module.finrank (ZMod 2) matrix.rowSpace = matrix.rank ∧
    ∀ mixing : Matrix, mixing.IsInvertible matrix.height →
      (mixing.mul matrix).echelon = matrix.echelon := by
  refine ⟨⟨matrix.height_echelon, rfl, matrix.is_reduced_echelon⟩, ?_, matrix.finrank_row_space, ?_⟩
  · exact ⟨rfl, ⟨matrix.height_transform_basis_change, rfl⟩,
      ⟨matrix.height_inverse_basis_change, matrix.columns_inverse_basis_change⟩,
      matrix.transform_mul, matrix.transform_mul_inverse, matrix.inverse_mul_transform⟩
  · intro mixing invertible
    apply echelon_eq_of_spans
    · rw [height_mul, invertible.1]
    · rfl
    · exact spans_mul_iff invertible

/-- Four rows of rank three, of which the first two and the last two are mixed:
the rows change and the form does not. -/
theorem echelon_canonical_mixed :
    let matrix := ofRows 4 [0b0110, 0b1011, 0b1101, 0b1100]
    let mixing := ofRows 4 [0b0011, 0b0010, 0b1000, 0b1100]
    (mixing.IsInvertible matrix.height ∧
      (mixing.mul matrix).rows = [0b1101, 0b1011, 0b1100, 0b0001]) ∧
    (mixing.mul matrix).echelon = matrix.echelon ∧
      matrix.echelon = ⟨ofRows 4 [0b0001, 0b1010, 0b1100, 0], [0, 1, 2]⟩ := by
  intro matrix mixing
  have invertible : mixing.IsInvertible matrix.height :=
    ⟨rfl, rfl, ofRows 4 [0b0011, 0b0010, 0b1100, 0b0100], rfl, rfl, by decide, by decide⟩
  exact ⟨⟨invertible, by decide⟩, (echelon_canonical matrix).2.2.2 mixing invertible, by decide⟩

end StabilizerPrep.Matrix
