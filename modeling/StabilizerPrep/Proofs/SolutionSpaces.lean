import Mathlib.LinearAlgebra.LinearIndependent.Lemmas
import StabilizerPrep.Proofs.KernelDimension
import StabilizerPrep.Proofs.MatrixEntries

/-!
# Bases of kernels and solutions of systems

The computed basis of a kernel is one in the sense of linear algebra: its
vectors are independent, there are as many as columns beyond the rank, and each
vector of the kernel is the sum of exactly one part of the list. A system is
solved exactly when it has a solution.
-/

namespace StabilizerPrep.Mask

set_option autoImplicit false

@[simp] theorem to_vector_zero (width : Nat) : toVector width 0 = 0 := by
  funext position
  rw [toVector, Nat.zero_testBit]
  rfl

theorem to_vector_xor (width first second : Nat) :
    toVector width (first ^^^ second) = toVector width first + toVector width second := by
  funext position
  rw [Pi.add_apply, toVector, toVector, toVector, Nat.testBit_xor]
  exact scalar_bne _ _

end StabilizerPrep.Mask

namespace StabilizerPrep.Matrix

set_option autoImplicit false

open Mask

theorem to_vector_combine (width : Nat) (rows : List Nat) (selection : Nat) :
    toVector width (combine rows selection) =
      ∑ k : Fin rows.length, toVector rows.length selection k • toVector width rows[k] := by
  induction rows generalizing selection with
  | nil => exact to_vector_zero width
  | cons row rows ih =>
      have tail : ∀ k : Fin rows.length, toVector (row :: rows).length selection k.succ =
          toVector rows.length (selection / 2) k := by
        intro k
        rw [toVector, toVector, Fin.val_succ, Nat.testBit_succ]
      have head : toVector width (if selection.testBit 0 then row else 0) =
          toVector (row :: rows).length selection 0 • toVector width row := by
        rw [toVector, Fin.val_zero]
        cases selection.testBit 0 with
        | false => simp [scalar]
        | true => simp [scalar]
      have split := Fin.sum_univ_succ fun k : Fin (rows.length + 1) =>
        toVector (row :: rows).length selection k • toVector width (row :: rows)[k]
      simp only [tail] at split
      rw [combine, to_vector_xor, ih, head]
      exact split.symm

theorem linear_independent_of_combine {width : Nat} {rows : List Nat}
    (bounded : ∀ row ∈ rows, row < 2 ^ width)
    (injective : ∀ first < 2 ^ rows.length, ∀ second < 2 ^ rows.length,
      combine rows first = combine rows second → first = second) :
    LinearIndependent (ZMod 2) fun k : Fin rows.length => toVector width rows[k] := by
  rw [Fintype.linearIndependent_iff]
  intro factors vanishes k
  obtain ⟨selection, bound, rfl⟩ := exists_to_vector factors
  rw [← to_vector_combine, ← to_vector_zero width] at vanishes
  have sum := to_vector_injective (combine_lt bounded selection) (Nat.two_pow_pos width) vanishes
  rw [← combine_zero rows] at sum
  rw [injective selection bound 0 (Nat.two_pow_pos _) sum, to_vector_zero]
  rfl

def selected : List Nat → Nat → List Nat
  | [], _ => []
  | row :: rows, selection =>
      if selection.testBit 0 then row :: selected rows (selection / 2)
      else selected rows (selection / 2)

theorem foldr_selected (rows : List Nat) (selection : Nat) :
    (selected rows selection).foldr (· ^^^ ·) 0 = combine rows selection := by
  induction rows generalizing selection with
  | nil => rfl
  | cons row rows ih =>
      rw [selected, combine]
      split
      · rw [List.foldr_cons, ih]
      · rw [ih, Nat.zero_xor]

theorem selected_sublist (rows : List Nat) (selection : Nat) :
    (selected rows selection).Sublist rows := by
  induction rows generalizing selection with
  | nil => exact List.Sublist.refl _
  | cons row rows ih =>
      rw [selected]
      split
      · exact (ih _).cons_cons row
      · exact (ih _).cons row

theorem exists_selected {rows part : List Nat} (contained : part.Sublist rows) :
    ∃ selection < 2 ^ rows.length, selected rows selection = part := by
  induction contained with
  | slnil => exact ⟨0, by decide, rfl⟩
  | @cons part rows row _ ih =>
      obtain ⟨selection, bound, rfl⟩ := ih
      have double : 2 ^ (row :: rows).length = 2 ^ rows.length * 2 := rfl
      have even : (2 * selection).testBit 0 = false := by simp
      have half : 2 * selection / 2 = selection := by omega
      refine ⟨2 * selection, by omega, ?_⟩
      rw [selected, even, half]
      rfl
  | @cons_cons part rows row _ ih =>
      obtain ⟨selection, bound, rfl⟩ := ih
      have double : 2 ^ (row :: rows).length = 2 ^ rows.length * 2 := rfl
      have odd : (2 * selection + 1).testBit 0 = true := by simp
      have half : (2 * selection + 1) / 2 = selection := by omega
      refine ⟨2 * selection + 1, by omega, ?_⟩
      rw [selected, odd, half]
      rfl

variable (matrix : Matrix)

theorem mul_vec_eq_iff {target : Nat} (bound : target < 2 ^ matrix.height) (vector : Nat) :
    matrix.mulVec vector = target ↔
      ∀ i < matrix.height, dot (matrix.rows.getD i 0) vector = target.testBit i := by
  constructor
  · rintro rfl i _
    exact (test_bit_mul_vec matrix vector i).symm
  · intro same
    apply eq_of_test_bit_below (matrix.mul_vec_lt vector) bound
    intro i inside
    rw [test_bit_mul_vec, same i inside]

theorem mul_vec_eq_zero_iff (vector : Nat) :
    matrix.mulVec vector = 0 ↔ Kills matrix.rows vector := by
  rw [mul_vec_eq_iff matrix (Nat.two_pow_pos _)]
  simp only [Nat.zero_testBit]
  constructor
  · intro zero row member
    obtain ⟨i, inside, rfl⟩ := List.mem_iff_getElem.1 member
    rw [← List.getD_eq_getElem _ 0 inside]
    exact zero i inside
  · intro killed i inside
    rw [List.getD_eq_getElem _ _ inside]
    exact killed _ (List.getElem_mem inside)

/-- A vector of the kernel is the sum of exactly one part of the basis. -/
theorem exists_unique_sublist_null_space {vector : Nat} (bound : vector < 2 ^ matrix.columns)
    (killed : Kills matrix.rows vector) :
    ∃! part : List Nat, part.Sublist matrix.nullSpace ∧ part.foldr (· ^^^ ·) 0 = vector := by
  obtain ⟨selection, selectionBound, rfl⟩ := matrix.exists_combine_null_space bound killed
  refine ⟨selected matrix.nullSpace selection, ⟨selected_sublist _ _, foldr_selected _ _⟩, ?_⟩
  rintro part ⟨contained, sum⟩
  obtain ⟨other, otherBound, rfl⟩ := exists_selected contained
  rw [foldr_selected] at sum
  rw [matrix.combine_null_space_injective otherBound selectionBound sum]

/-- The list of vectors for the columns without a pivot is a basis of the
kernel: independent vectors, as many as there are columns beyond the rank, all
sent to zero, and whatever is sent to zero is the sum of one part of the list
and of no other. -/
theorem null_space_basis :
    matrix.rank ≤ matrix.columns ∧ matrix.nullSpace.length = matrix.columns - matrix.rank ∧
    (LinearIndependent (ZMod 2) fun k : Fin matrix.nullSpace.length =>
      toVector matrix.columns matrix.nullSpace[k]) ∧
    (∀ vector ∈ matrix.nullSpace,
      vector < 2 ^ matrix.columns ∧ matrix.mulVec vector = 0) ∧
    ∀ vector < 2 ^ matrix.columns, matrix.mulVec vector = 0 →
      ∃! part : List Nat, part.Sublist matrix.nullSpace ∧ part.foldr (· ^^^ ·) 0 = vector := by
  have dimensions := matrix.rank_add_length_null_space
  refine ⟨by omega, by omega, ?_, ?_, ?_⟩
  · apply linear_independent_of_combine fun vector member => (matrix.mem_null_space member).1
    intro first firstBound second secondBound
    exact matrix.combine_null_space_injective firstBound secondBound
  · intro vector member
    rw [mul_vec_eq_zero_iff]
    exact matrix.mem_null_space member
  · intro vector bound zero
    exact matrix.exists_unique_sublist_null_space bound ((matrix.mul_vec_eq_zero_iff vector).1 zero)

/-- A matrix of rank two with a column of zeros: the sum of both vectors of the
basis, and of no other part of it. -/
theorem null_space_basis_triangle :
    let matrix := ofRows 4 [0b0110, 0b0011, 0b0101]
    matrix.nullSpace = [0b0111, 0b1000] ∧ matrix.mulVec 0b1111 = 0 ∧
      ∃! part : List Nat, part.Sublist matrix.nullSpace ∧ part.foldr (· ^^^ ·) 0 = 0b1111 :=
  ⟨by decide, by decide,
    (null_space_basis (ofRows 4 [0b0110, 0b0011, 0b0101])).2.2.2.2 0b1111 (by decide) (by decide)⟩

/-- Solving decides a system: a vector that is found solves it, and if none is
found no vector does. -/
theorem solve_decides {target : Nat} (bound : target < 2 ^ matrix.height) :
    (∀ solution, matrix.solve target = some solution →
      solution < 2 ^ matrix.columns ∧ matrix.mulVec solution = target) ∧
    (matrix.solve target = none →
      ∀ vector < 2 ^ matrix.columns, matrix.mulVec vector ≠ target) := by
  constructor
  · intro solution found
    obtain ⟨inside, solves⟩ := matrix.solve_some found
    exact ⟨inside, (matrix.mul_vec_eq_iff bound solution).2 solves⟩
  · intro absent vector inside same
    exact matrix.solve_none absent inside ((matrix.mul_vec_eq_iff bound vector).1 same)

/-- Of two systems with dependent rows, one with equal and one with unequal
right sides, the first has a solution and the second has none. -/
theorem solve_decides_repeated :
    let matrix := ofRows 3 [0b011, 0b110, 0b011]
    (matrix.solve 0b101 = some 0b001 ∧ matrix.mulVec 0b001 = 0b101) ∧
      matrix.solve 0b001 = none ∧ ∀ vector < 2 ^ 3, matrix.mulVec vector ≠ 0b001 := by
  intro matrix
  have found : matrix.solve 0b101 = some 0b001 := by decide
  have absent : matrix.solve 0b001 = none := by decide
  have solves := (matrix.solve_decides (show 0b101 < 2 ^ matrix.height by decide)).1
  have refutes := (matrix.solve_decides (show 0b001 < 2 ^ matrix.height by decide)).2
  exact ⟨⟨found, (solves _ found).2⟩, absent, refutes absent⟩

end StabilizerPrep.Matrix
