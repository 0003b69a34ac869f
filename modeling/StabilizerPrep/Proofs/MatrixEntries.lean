import Mathlib.Data.Fintype.EquivFin
import Mathlib.Data.List.GetD
import StabilizerPrep.Proofs.Bits

/-!
# Entries of matrices

Matrices are compared entry by entry, and every operation has one lemma that
tells its entries or its rows. Products act on selections of rows and on
vectors as one factor after the other, so where one of two square matrices
undoes the other, it does so from both sides.
-/

namespace StabilizerPrep.Matrix

set_option autoImplicit false

open Mask

theorem eq_of_entries {first second : Matrix} (heights : first.height = second.height)
    (columns : first.columns = second.columns)
    (entries : ∀ i < first.height, ∀ j < first.columns, first.entry i j = second.entry i j) :
    first = second := by
  have rows : first.rows = second.rows := by
    apply List.ext_getElem heights
    intro i inside otherInside
    have otherBound := second.bounded _ (List.getElem_mem otherInside)
    rw [← columns] at otherBound
    apply eq_of_test_bit_below (first.bounded _ (List.getElem_mem inside)) otherBound
    intro j below
    have bit := entries i inside j below
    rwa [entry, entry, List.getD_eq_getElem _ _ inside,
      List.getD_eq_getElem _ _ otherInside] at bit
  cases first
  cases second
  simp only [mk.injEq]
  exact ⟨columns, rows⟩

theorem entry_of_columns_le (matrix : Matrix) (i : Nat) {j : Nat}
    (outside : matrix.columns ≤ j) : matrix.entry i j = false := by
  rw [entry, List.getD_eq_getElem?_getD]
  cases found : matrix.rows[i]? with
  | none => simp
  | some row => exact test_bit_beyond (matrix.bounded row (List.mem_of_getElem? found)) outside

theorem is_zero_iff (matrix : Matrix) :
    matrix.isZero = true ↔
      ∀ i < matrix.height, ∀ j < matrix.columns, matrix.entry i j = false := by
  rw [isZero, List.all_eq_true]
  constructor
  · intro zero i inside j _
    have row := zero _ (List.getElem_mem inside)
    rw [entry, List.getD_eq_getElem _ _ inside, beq_iff_eq.1 row, Nat.zero_testBit]
  · intro zero row member
    obtain ⟨i, inside, rfl⟩ := List.mem_iff_getElem.1 member
    rw [beq_iff_eq]
    apply eq_of_test_bit_below (matrix.bounded _ member) (Nat.two_pow_pos _)
    intro j below
    have bit := zero i inside j below
    rwa [entry, List.getD_eq_getElem _ _ inside, ← Nat.zero_testBit j] at bit

theorem column_lt (matrix : Matrix) (index : Nat) :
    ofBits (matrix.rows.map (·.testBit index)) < 2 ^ matrix.height := by
  simpa [height] using of_bits_lt (matrix.rows.map (·.testBit index))

theorem test_bit_column (matrix : Matrix) (index qubit : Nat) :
    (ofBits (matrix.rows.map (·.testBit index))).testBit qubit = matrix.entry qubit index := by
  rw [test_bit_of_bits, entry, ← Nat.zero_testBit index]
  exact List.getD_map matrix.rows 0 (·.testBit index)

theorem column_eq {matrix : Matrix} {mask index : Nat} (bound : mask < 2 ^ matrix.height)
    (bits : ∀ qubit < matrix.height, matrix.entry qubit index = mask.testBit qubit) :
    ofBits (matrix.rows.map (·.testBit index)) = mask := by
  apply eq_of_test_bit_below (column_lt matrix index) bound
  intro qubit inside
  rw [test_bit_column, bits qubit inside]

theorem rows_transpose (matrix : Matrix) :
    matrix.transpose.rows =
      (List.range matrix.columns).map fun column =>
        ofBits (matrix.rows.map (·.testBit column)) := by
  apply rows_of_rows
  intro row member
  obtain ⟨column, _, rfl⟩ := List.mem_map.1 member
  exact column_lt matrix column

theorem entry_transpose (matrix : Matrix) {i j : Nat} (row : i < matrix.columns)
    (column : j < matrix.height) : matrix.transpose.entry i j = matrix.entry j i := by
  rw [Matrix.transpose, entry_of_rows, decide_eq_true column, Bool.true_and,
    List.getD_eq_getElem _ _ (by simpa using row), List.getElem_map, List.getElem_range]
  exact test_bit_column matrix i j

section OfColumns

variable {masks : List Nat}

def ofColumns (masks : List Nat) : Matrix :=
  ofRows masks.length ((List.range masks.length).map fun i => ofBits (masks.map (·.testBit i)))

theorem rows_of_columns (masks : List Nat) :
    (ofColumns masks).rows =
      (List.range masks.length).map fun i => ofBits (masks.map (·.testBit i)) := by
  apply rows_of_rows
  intro row member
  obtain ⟨i, _, rfl⟩ := List.mem_map.1 member
  simpa using of_bits_lt (masks.map (·.testBit i))

@[simp] theorem height_of_columns (masks : List Nat) : (ofColumns masks).height = masks.length := by
  simp [ofColumns]

theorem getD_rows_of_columns {i : Nat} (inside : i < masks.length) :
    (ofColumns masks).rows.getD i 0 = ofBits (masks.map (·.testBit i)) := by
  rw [rows_of_columns, List.getD_eq_getElem _ _ (by simpa using inside), List.getElem_map,
    List.getElem_range]

theorem entry_of_columns {i : Nat} (inside : i < masks.length) (j : Nat) :
    (ofColumns masks).entry i j = (masks.getD j 0).testBit i := by
  rw [entry, getD_rows_of_columns inside, test_bit_of_bits, ← Nat.zero_testBit i]
  exact List.getD_map masks 0 (·.testBit i)

end OfColumns

@[simp] theorem height_identity (size : Nat) : (identity size).height = size := by
  simp [identity]

theorem rows_identity (size : Nat) : (identity size).rows = (List.range size).map single := by
  apply rows_of_rows
  intro row member
  obtain ⟨position, inside, rfl⟩ := List.mem_map.1 member
  exact single_lt (List.mem_range.1 inside)

theorem entry_identity {size i : Nat} (inside : i < size) (j : Nat) :
    (identity size).entry i j = decide (i = j) := by
  rw [identity, entry_of_rows, List.getD_eq_getElem _ _ (by simpa using inside), List.getElem_map,
    List.getElem_range, test_bit_single]
  by_cases same : i = j
  · rw [decide_eq_true (same ▸ inside), Bool.true_and]
  · rw [decide_eq_false same, Bool.and_false]

@[simp] theorem height_add (first second : Matrix) :
    (first.add second).height = min first.height second.height := by
  rw [add, height_of_rows, List.length_zipWith]
  rfl

theorem entry_add (first second : Matrix) {i j : Nat} (inside : i < first.height)
    (otherInside : i < second.height) (below : j < first.columns) :
    (first.add second).entry i j = (first.entry i j != second.entry i j) := by
  have firstInside : i < first.rows.length := inside
  have secondInside : i < second.rows.length := otherInside
  rw [add, entry_of_rows, decide_eq_true below, Bool.true_and,
    List.getD_eq_getElem _ _ (by simp only [List.length_zipWith]; omega), List.getElem_zipWith,
    Nat.testBit_xor, entry, entry, List.getD_eq_getElem _ _ firstInside,
    List.getD_eq_getElem _ _ secondInside]

@[simp] theorem height_mul (first second : Matrix) : (first.mul second).height = first.height := by
  rw [mul, height_of_rows, List.length_map]
  rfl

theorem rows_mul (first second : Matrix) :
    (first.mul second).rows = first.rows.map (combine second.rows) := by
  apply rows_of_rows
  intro row member
  obtain ⟨selection, _, rfl⟩ := List.mem_map.1 member
  exact combine_lt second.bounded selection

theorem entry_mul (first second : Matrix) {i j : Nat} (inside : i < first.height)
    (below : j < second.columns) :
    (first.mul second).entry i j =
      dot (first.rows.getD i 0)
        (ofBits ((List.range second.height).map fun k => second.entry k j)) := by
  have rowInside : i < first.rows.length := inside
  have column : (List.range second.height).map (fun k => second.entry k j) =
      second.rows.map (·.testBit j) := by
    apply List.ext_getElem
    · simp [height]
    · intro k _ kInside
      have kBelow : k < second.rows.length := by simpa using kInside
      rw [List.getElem_map, List.getElem_range, List.getElem_map, entry,
        List.getD_eq_getElem _ _ kBelow]
  rw [mul, entry_of_rows, decide_eq_true below, Bool.true_and, column,
    List.getD_eq_getElem _ _ (by simpa using rowInside), List.getElem_map,
    List.getD_eq_getElem _ _ rowInside, test_bit_combine]

theorem combine_rows_mul (first second : Matrix) (selection : Nat) :
    combine (first.mul second).rows selection =
      combine second.rows (combine first.rows selection) := by
  rw [rows_mul]
  exact combine_map first.rows (combine second.rows) (combine_zero _) (combine_xor _) selection

theorem combine_rows_identity {size selection : Nat} (bound : selection < 2 ^ size) :
    combine (identity size).rows selection = selection := by
  rw [rows_identity, combine_singles]
  exact Nat.mod_eq_of_lt bound

theorem eq_identity_of_combine {size : Nat} {matrix : Matrix} (height : matrix.height = size)
    (columns : matrix.columns = size)
    (fixed : ∀ place < size, combine matrix.rows (single place) = single place) :
    matrix = identity size := by
  apply eq_of_entries (by rw [height, height_identity]) columns
  intro i inside j _
  rw [height] at inside
  have row := fixed i inside
  rw [combine_single] at row
  rw [entry, row, test_bit_single, entry_identity inside]

theorem mul_vec_lt (matrix : Matrix) (vector : Nat) :
    matrix.mulVec vector < 2 ^ matrix.height := by
  simpa [height, mulVec] using of_bits_lt (matrix.rows.map fun row => parity (row &&& vector))

theorem mul_vec_mul (first second : Matrix) (vector : Nat) :
    (first.mul second).mulVec vector = first.mulVec (second.mulVec vector) := by
  apply Nat.eq_of_testBit_eq
  intro position
  have row : (first.rows.map (combine second.rows)).getD position 0 =
      combine second.rows (first.rows.getD position 0) := by
    conv_lhs => rw [← combine_zero second.rows]
    exact List.getD_map first.rows 0 (combine second.rows)
  rw [test_bit_mul_vec, test_bit_mul_vec, rows_mul, row, dot_combine]
  rfl

theorem mul_vec_identity {size vector : Nat} (bound : vector < 2 ^ size) :
    (identity size).mulVec vector = vector := by
  have length := (identity size).mul_vec_lt vector
  rw [height_identity] at length
  apply eq_of_test_bit_below length bound
  intro position inside
  have row : (identity size).rows.getD position 0 = single position := by
    apply Nat.eq_of_testBit_eq
    intro column
    rw [test_bit_single]
    exact entry_identity inside column
  rw [test_bit_mul_vec, row, dot_single_left]

theorem mul_vec_of_columns {masks : List Nat}
    (bounded : ∀ mask ∈ masks, mask < 2 ^ masks.length) (selection : Nat) :
    (ofColumns masks).mulVec selection = combine masks selection := by
  have length := (ofColumns masks).mul_vec_lt selection
  rw [height_of_columns] at length
  apply eq_of_test_bit_below length (combine_lt bounded selection)
  intro i inside
  rw [test_bit_mul_vec, getD_rows_of_columns inside, test_bit_combine, dot_comm]

def IsInvertible (size : Nat) (matrix : Matrix) : Prop :=
  matrix.height = size ∧ matrix.columns = size ∧
    ∃ inverse : Matrix, inverse.height = size ∧ inverse.columns = size ∧
      matrix.mul inverse = identity size ∧ inverse.mul matrix = identity size

theorem IsInvertible.exists_mul_vec_eq {size vector : Nat} {matrix : Matrix}
    (invertible : matrix.IsInvertible size) (bound : vector < 2 ^ size) :
    ∃ origin, matrix.mulVec origin = vector := by
  obtain ⟨-, -, inverse, -, -, cancelled, -⟩ := invertible
  refine ⟨inverse.mulVec vector, ?_⟩
  rw [← mul_vec_mul, cancelled, mul_vec_identity bound]

/-- Where the second of two square matrices undoes the first, the first undoes
the second. -/
theorem mul_eq_identity_comm {size : Nat} {first second : Matrix}
    (firstColumns : first.columns = size) (secondHeight : second.height = size)
    (undone : first.mul second = identity size) :
    second.mul first = identity size := by
  have back : ∀ selection < 2 ^ size,
      combine second.rows (combine first.rows selection) = selection := by
    intro selection bound
    rw [← combine_rows_mul, undone, combine_rows_identity bound]
  have bounded : ∀ selection, combine first.rows selection < 2 ^ size := by
    rw [← firstColumns]
    exact combine_lt first.bounded
  let image : Fin (2 ^ size) → Fin (2 ^ size) := fun selection =>
    ⟨combine first.rows selection, bounded selection⟩
  have injective : Function.Injective image := by
    intro one other same
    apply Fin.ext
    rw [← back one one.isLt, ← back other other.isLt]
    exact congrArg (combine second.rows) (congrArg Fin.val same)
  refine eq_identity_of_combine ((height_mul second first).trans secondHeight) firstColumns ?_
  intro place inside
  obtain ⟨origin, reached⟩ :=
    Finite.surjective_of_injective injective ⟨single place, single_lt inside⟩
  have sum : combine first.rows origin = single place := congrArg Fin.val reached
  rw [combine_rows_mul, ← sum, back origin origin.isLt]

end StabilizerPrep.Matrix
