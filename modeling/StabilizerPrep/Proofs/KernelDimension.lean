import Mathlib.Algebra.BigOperators.Fin
import Mathlib.Algebra.Field.ZMod
import Mathlib.FieldTheory.Finiteness
import StabilizerPrep.Proofs.LinearSystems

/-!
# The dimension of a kernel

Masks are vectors over the field with two elements. The vectors that a matrix
sends to zero are a space, and each of them is a sum of vectors of the computed
basis in one way only. So there are as many of them as selections, and the
length of the basis is the dimension of the space.
-/

namespace StabilizerPrep.Mask

set_option autoImplicit false

def scalar (value : Bool) : ZMod 2 :=
  if value then 1 else 0

theorem scalar_injective : Function.Injective scalar := by
  decide

theorem exists_scalar (value : ZMod 2) : ∃ truth, scalar truth = value := by
  revert value
  decide

theorem scalar_and (first second : Bool) :
    scalar (first && second) = scalar first * scalar second := by
  revert first second
  decide

theorem scalar_bne (first second : Bool) :
    scalar (first != second) = scalar first + scalar second := by
  revert first second
  decide

theorem scalar_eq_zero_iff (value : Bool) : scalar value = 0 ↔ value = false := by
  revert value
  decide

def toVector (width mask : Nat) : Fin width → ZMod 2 :=
  fun position => scalar (mask.testBit position)

theorem to_vector_injective {width first second : Nat} (firstBound : first < 2 ^ width)
    (secondBound : second < 2 ^ width)
    (same : toVector width first = toVector width second) : first = second := by
  apply eq_of_test_bit_below firstBound secondBound
  intro position inside
  exact scalar_injective (congrFun same ⟨position, inside⟩)

theorem exists_to_vector {width : Nat} (vector : Fin width → ZMod 2) :
    ∃ mask < 2 ^ width, toVector width mask = vector := by
  choose truth same using fun position => exists_scalar (vector position)
  refine ⟨ofTest width fun position => if inside : position < width then truth ⟨position, inside⟩
    else false, of_test_lt _ _, ?_⟩
  funext position
  rw [← same position, toVector, test_bit_of_test, decide_eq_true position.isLt, Bool.true_and,
    dif_pos position.isLt]

theorem sum_to_vector_mul {width first : Nat} (second : Nat) (bound : first < 2 ^ width) :
    ∑ position, toVector width first position * toVector width second position =
      scalar (dot first second) := by
  induction width generalizing first second with
  | zero =>
      have none : first = 0 := Nat.lt_one_iff.1 bound
      rw [none, dot_zero_left]
      rfl
  | succ width ih =>
      have half : first / 2 < 2 ^ width := by
        have double : 2 ^ (width + 1) = 2 ^ width * 2 := rfl
        omega
      have tail : ∀ mask (position : Fin width),
          toVector (width + 1) mask position.succ = toVector width (mask / 2) position := by
        intro mask position
        rw [toVector, toVector, Fin.val_succ, Nat.testBit_succ]
      rw [Fin.sum_univ_succ, dot_halves, scalar_bne, scalar_and, ← ih (second / 2) half]
      simp only [tail]
      rfl

end StabilizerPrep.Mask

namespace StabilizerPrep.Matrix

set_option autoImplicit false

open Mask

variable (matrix : Matrix)

def kernel : Submodule (ZMod 2) (Fin matrix.columns → ZMod 2) where
  carrier := { vector | ∀ row ∈ matrix.rows,
    ∑ column, toVector matrix.columns row column * vector column = 0 }
  zero_mem' := by
    intro row _
    simp
  add_mem' := by
    intro first second firstZero secondZero row member
    simp only [Pi.add_apply, mul_add, Finset.sum_add_distrib, firstZero row member,
      secondZero row member, add_zero]
  smul_mem' := by
    intro factor vector zero row member
    simp only [Pi.smul_apply, smul_eq_mul, mul_left_comm _ factor, ← Finset.mul_sum,
      zero row member, mul_zero]

theorem to_vector_mem_kernel_iff (mask : Nat) :
    toVector matrix.columns mask ∈ matrix.kernel ↔ Kills matrix.rows mask := by
  have tested : ∀ row ∈ matrix.rows,
      (∑ column, toVector matrix.columns row column * toVector matrix.columns mask column = 0 ↔
        dot row mask = false) := by
    intro row member
    rw [sum_to_vector_mul mask (matrix.bounded row member), scalar_eq_zero_iff]
  constructor
  · intro zero row member
    exact (tested row member).1 (zero row member)
  · intro killed row member
    exact (tested row member).2 (killed row member)

theorem combine_null_space_injective {first second : Nat}
    (firstBound : first < 2 ^ matrix.nullSpace.length)
    (secondBound : second < 2 ^ matrix.nullSpace.length)
    (same : combine matrix.nullSpace first = combine matrix.nullSpace second) :
    first = second := by
  apply eq_of_test_bit_below firstBound secondBound
  intro k below
  rw [length_null_space] at below
  -- the column that only the vector `k` of the basis meets
  have missing : matrix.freeColumns[k] ∉ matrix.eliminate.pivots :=
    (matrix.mem_free_columns.1 (List.getElem_mem below)).2
  have bits := congrArg (fun mask => mask.testBit matrix.freeColumns[k]) same
  simp only [test_bit_combine_null_space matrix _ missing,
    of_bits_map_eq_single matrix.free_columns_nodup below, dot_single_right] at bits
  exact bits

def kernelVector (selection : Fin (2 ^ matrix.nullSpace.length)) : matrix.kernel :=
  ⟨toVector matrix.columns (combine matrix.nullSpace selection),
    (matrix.to_vector_mem_kernel_iff _).2
      (kills_combine (fun _ member => (matrix.mem_null_space member).2) selection)⟩

theorem kernel_vector_bijective : Function.Bijective matrix.kernelVector := by
  constructor
  · intro first second same
    have bounded : ∀ selection, combine matrix.nullSpace selection < 2 ^ matrix.columns :=
      combine_lt fun _ member => (matrix.mem_null_space member).1
    have vectors := to_vector_injective (bounded _) (bounded _) (Subtype.ext_iff.1 same)
    exact Fin.ext (matrix.combine_null_space_injective first.isLt second.isLt vectors)
  · rintro ⟨vector, member⟩
    obtain ⟨mask, bound, rfl⟩ := exists_to_vector vector
    obtain ⟨selection, selectionBound, rfl⟩ :=
      matrix.exists_combine_null_space bound ((matrix.to_vector_mem_kernel_iff mask).1 member)
    exact ⟨⟨selection, selectionBound⟩, rfl⟩

/-- The length of the computed basis is the dimension of the kernel. -/
theorem finrank_kernel : Module.finrank (ZMod 2) matrix.kernel = matrix.nullSpace.length := by
  have vectors : Nat.card matrix.kernel = 2 ^ matrix.nullSpace.length := by
    rw [← Nat.card_congr (Equiv.ofBijective _ matrix.kernel_vector_bijective), Nat.card_fin]
  have scalars : Nat.card matrix.kernel = 2 ^ Module.finrank (ZMod 2) matrix.kernel := by
    rw [Module.natCard_eq_pow_finrank (K := ZMod 2), Nat.card_zmod]
  exact Nat.pow_right_injective (Nat.le_refl 2) (scalars.symm.trans vectors)

end StabilizerPrep.Matrix
