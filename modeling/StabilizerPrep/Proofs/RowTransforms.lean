import Mathlib.Data.Nat.Bitwise
import StabilizerPrep.Proofs.Elimination
import StabilizerPrep.Proofs.MatrixEntries

/-!
# The row transform of elimination

Each row under elimination carries the selection of given rows it is the sum of,
and a column of the inverse transform. Where the pivot is added to a row, the
column of that row is added to the pivot's. So for every place the rows whose
columns have a one there keep the same sum of selections, which is the place
alone. At the end this says that the inverse cancels the transform, and for
square matrices it does so from both sides.
-/

namespace StabilizerPrep.Matrix

set_option autoImplicit false

open Mask

namespace Elimination

/-- The sum of the selections carried by the rows whose columns of the inverse
have a one at the place. -/
def share (place : Nat) : List TrackedRow → Nat
  | [] => 0
  | row :: rows => (if row.dual.testBit place then row.trace else 0) ^^^ share place rows

theorem share_eq_combine (place : Nat) (rows : List TrackedRow) :
    share place rows =
      combine (rows.map (·.trace)) (ofBits (rows.map (·.dual.testBit place))) := by
  induction rows with
  | nil => rfl
  | cons row rows ih =>
      rw [List.map_cons, List.map_cons, combine, test_bit_of_bits_cons, of_bits_cons_div_two, share,
        ih]

theorem share_perm {place : Nat} {first second : List TrackedRow} (permuted : first.Perm second) :
    share place first = share place second := by
  induction permuted with
  | nil => rfl
  | cons row _ ih => rw [share, share, ih]
  | swap first second rows =>
      rw [share, share, share, share]
      ac_rfl
  | trans _ _ one two => exact one.trans two

/-- What is added to a row along with the pivot is taken back through the
pivot's column. -/
theorem share_pivot (place column : Nat) (pivot : TrackedRow) (others : List TrackedRow) :
    share place (gather column pivot others :: others.map (clear column pivot)) =
      share place (pivot :: others) := by
  induction others generalizing pivot with
  | nil => rfl
  | cons row others ih =>
      -- the pivot once it has taken up the column of this row alone
      let joined : TrackedRow := { pivot with
        dual := if row.entries.testBit column then pivot.dual ^^^ row.dual else pivot.dual }
      have rest : share place (gather column pivot (row :: others) ::
            others.map (clear column pivot)) = share place (joined :: others) := ih joined
      simp only [share, List.map_cons] at rest ⊢
      rw [Nat.xor_left_comm, rest]
      unfold clear
      cases hit : row.entries.testBit column with
      | false =>
          simp only [joined, hit]
          exact Nat.xor_left_comm _ _ _
      | true =>
          simp only [joined, hit, if_true, Nat.testBit_xor]
          cases pivot.dual.testBit place <;> cases row.dual.testBit place <;>
            simp [Nat.xor_assoc, Nat.xor_left_comm]

/-- The rows carry how they come from the rows of the matrix, and how these come
back from them. -/
structure Traced (matrix : Matrix) (rows : List TrackedRow) : Prop where
  length : rows.length = matrix.height
  traces : ∀ row ∈ rows, row.trace < 2 ^ matrix.height
  sums : ∀ row ∈ rows, combine matrix.rows row.trace = row.entries
  shares : ∀ place < matrix.height, share place rows = single place

variable {matrix : Matrix}

theorem Traced.perm {first second : List TrackedRow} (traced : Traced matrix first)
    (permuted : first.Perm second) : Traced matrix second where
  length := permuted.length_eq.symm.trans traced.length
  traces row member := traced.traces row (permuted.mem_iff.2 member)
  sums row member := traced.sums row (permuted.mem_iff.2 member)
  shares place inside := (share_perm permuted).symm.trans (traced.shares place inside)

theorem Traced.pivot {pivot : TrackedRow} {others : List TrackedRow}
    (traced : Traced matrix (pivot :: others)) (column : Nat) :
    Traced matrix (gather column pivot others :: others.map (clear column pivot)) := by
  obtain ⟨pivotTrace, otherTraces⟩ := List.forall_mem_cons.1 traced.traces
  obtain ⟨pivotSum, otherSums⟩ := List.forall_mem_cons.1 traced.sums
  refine ⟨?_, List.forall_mem_cons.2 ⟨pivotTrace, ?_⟩, List.forall_mem_cons.2 ⟨pivotSum, ?_⟩, ?_⟩
  · rw [← traced.length, List.length_cons, List.length_map, List.length_cons]
  · rw [List.forall_mem_map]
    intro row member
    unfold clear
    split
    · exact Nat.xor_lt_two_pow (otherTraces row member) pivotTrace
    · exact otherTraces row member
  · rw [List.forall_mem_map]
    intro row member
    unfold clear
    split
    · rw [combine_xor, otherSums row member, pivotSum]
    · exact otherSums row member
  · intro place inside
    rw [share_pivot, traced.shares place inside]

theorem traced_start (matrix : Matrix) : Traced matrix (start matrix).rows := by
  have carried : ∀ row ∈ (start matrix).rows, ∃ (i : Nat) (inside : i < matrix.rows.length),
      row = ⟨matrix.rows[i], single i, single i⟩ := by
    intro row member
    obtain ⟨i, inside, same⟩ := List.mem_mapIdx.1 member
    exact ⟨i, inside, same.symm⟩
  refine ⟨List.length_mapIdx, ?_, ?_, ?_⟩
  · intro row member
    obtain ⟨i, inside, rfl⟩ := carried row member
    exact single_lt inside
  · intro row member
    obtain ⟨i, inside, rfl⟩ := carried row member
    rw [combine_single, List.getD_eq_getElem _ _ inside]
  · intro place inside
    have listed : (start matrix).rows.map (·.trace) = (identity matrix.height).rows := by
      rw [rows_identity]
      apply List.ext_getElem
      · simp [start, rows, height]
      · intro i _ _
        simp [start, rows]
    have bits : (start matrix).rows.map (·.dual.testBit place) =
        (List.range matrix.height).map fun i => decide (i = place) := by
      apply List.ext_getElem
      · simp [start, rows, height]
      · intro i _ _
        simp [start, rows]
    have selects := of_bits_map_eq_single List.nodup_range
      (show place < (List.range matrix.height).length by rwa [List.length_range])
    rw [List.getElem_range] at selects
    rw [share_eq_combine, listed, bits, selects, combine_rows_identity (single_lt inside)]

theorem traced_step {state : Elimination} (traced : Traced matrix state.rows) (column : Nat) :
    Traced matrix (step state column).rows := by
  cases found : takePivot column state.pending with
  | none => simpa [step, found] using traced
  | some result =>
      obtain ⟨pivot, others⟩ := result
      have before : state.rows.Perm (pivot :: (state.reduced ++ others)) :=
        ((take_pivot_some found).2.symm.append_left state.reduced).trans List.perm_middle
      have after : (gather column pivot (state.reduced ++ others) ::
          (state.reduced ++ others).map (clear column pivot)).Perm (step state column).rows := by
        simp only [rows, step, found, List.map_append, List.append_assoc, List.singleton_append]
        exact List.perm_middle.symm
      exact ((traced.perm before).pivot column).perm after

end Elimination

theorem eliminate_traced (matrix : Matrix) :
    Elimination.Traced matrix matrix.eliminate.rows := by
  unfold eliminate
  induction matrix.columns with
  | zero => exact Elimination.traced_start matrix
  | succ visited ih =>
      rw [List.range_succ, List.foldl_append]
      exact Elimination.traced_step ih visited

variable (matrix : Matrix)

theorem height_transform_basis_change : matrix.basisChange.transform.height = matrix.height := by
  rw [basisChange, height_of_rows, List.length_map, matrix.eliminate_traced.length]

theorem height_inverse_basis_change : matrix.basisChange.inverse.height = matrix.height := by
  rw [basisChange, transpose, height_of_rows, List.length_map, List.length_range]
  rfl

theorem columns_inverse_basis_change : matrix.basisChange.inverse.columns = matrix.height := by
  rw [basisChange, transpose, columns_of_rows, height_of_rows, List.length_map,
    matrix.eliminate_traced.length]

theorem rows_transform_basis_change :
    matrix.basisChange.transform.rows = matrix.eliminate.rows.map (·.trace) := by
  apply rows_of_rows
  rw [List.forall_mem_map]
  exact matrix.eliminate_traced.traces

theorem transform_mul : matrix.basisChange.transform.mul matrix = matrix.echelon.matrix := by
  rw [mul, rows_transform_basis_change, echelon, List.map_map]
  congr 1
  apply List.map_congr_left
  exact matrix.eliminate_traced.sums

theorem inverse_mul_transform :
    matrix.basisChange.inverse.mul matrix.basisChange.transform = identity matrix.height := by
  have traced := matrix.eliminate_traced
  apply eq_identity_of_combine
  · rw [height_mul, height_inverse_basis_change]
  · rfl
  intro place inside
  -- a row of the inverse selects the rows that have a one there
  have row : matrix.basisChange.inverse.rows.getD place 0 =
      ofBits (matrix.eliminate.rows.map (·.dual.testBit place)) := by
    rw [basisChange, rows_transpose, List.getD_eq_getElem _ _ (by simpa using inside),
      List.getElem_map, List.getElem_range, ofRows, List.map_map, List.map_map]
    congr 1
    apply List.map_congr_left
    intro carried _
    simp [inside]
  rw [combine_rows_mul, combine_single, row, rows_transform_basis_change,
    ← Elimination.share_eq_combine, traced.shares place inside]

theorem transform_mul_inverse :
    matrix.basisChange.transform.mul matrix.basisChange.inverse = identity matrix.height :=
  mul_eq_identity_comm matrix.columns_inverse_basis_change matrix.height_transform_basis_change
    matrix.inverse_mul_transform

theorem is_invertible_transform : matrix.basisChange.transform.IsInvertible matrix.height :=
  ⟨matrix.height_transform_basis_change, rfl, matrix.basisChange.inverse,
    matrix.height_inverse_basis_change, matrix.columns_inverse_basis_change,
    matrix.transform_mul_inverse, matrix.inverse_mul_transform⟩

end StabilizerPrep.Matrix
