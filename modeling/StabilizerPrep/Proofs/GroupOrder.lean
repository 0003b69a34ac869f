import Mathlib.Algebra.BigOperators.Group.Finset.Basic
import Mathlib.Data.Set.Card
import StabilizerPrep.Proofs.KernelDimension
import StabilizerPrep.Proofs.Relabelling

/-!
# The order of the group of a stabilizer

A function of vectors that does not tell vectors apart whose sum is in the
kernel of a matrix takes as many values as its rank gives selections. The masks
of a product of generators are such a function of the selection. So the rank of
the check matrix is known from the group alone, for generators that need not be
independent or commute.
-/

namespace StabilizerPrep.Matrix

set_option autoImplicit false

open Mask

instance (rows : List Nat) : DecidablePred (Kills rows) := fun vector =>
  inferInstanceAs (Decidable (∀ row ∈ rows, dot row vector = false))

variable (matrix : Matrix)

theorem card_filter_kills :
    ((Finset.range (2 ^ matrix.columns)).filter (Kills matrix.rows)).card =
      2 ^ matrix.nullSpace.length := by
  rw [← Finset.card_range (2 ^ matrix.nullSpace.length)]
  symm
  apply Finset.card_bij fun selection _ => combine matrix.nullSpace selection
  · intro selection _
    rw [Finset.mem_filter, Finset.mem_range]
    exact ⟨combine_lt (fun _ member => (matrix.mem_null_space member).1) selection,
      kills_combine (fun _ member => (matrix.mem_null_space member).2) selection⟩
  · intro first firstMember second secondMember same
    exact matrix.combine_null_space_injective (Finset.mem_range.1 firstMember)
      (Finset.mem_range.1 secondMember) same
  · intro vector member
    obtain ⟨bound, killed⟩ := Finset.mem_filter.1 member
    obtain ⟨selection, selectionBound, sum⟩ :=
      matrix.exists_combine_null_space (Finset.mem_range.1 bound) killed
    exact ⟨selection, Finset.mem_range.2 selectionBound, sum⟩

variable {Value : Type} [DecidableEq Value] {value : Nat → Value}

theorem card_filter_value
    (alike : ∀ first second, value first = value second ↔ Kills matrix.rows (first ^^^ second))
    {vector : Nat} (bound : vector < 2 ^ matrix.columns) :
    ((Finset.range (2 ^ matrix.columns)).filter (value · = value vector)).card =
      2 ^ matrix.nullSpace.length := by
  rw [← card_filter_kills]
  apply Finset.card_bij fun other _ => other ^^^ vector
  · intro other member
    obtain ⟨inside, same⟩ := Finset.mem_filter.1 member
    rw [Finset.mem_filter, Finset.mem_range]
    exact ⟨Nat.xor_lt_two_pow (Finset.mem_range.1 inside) bound, (alike other vector).1 same⟩
  · intro first _ second _ same
    exact Nat.xor_left_injective same
  · intro difference member
    obtain ⟨inside, killed⟩ := Finset.mem_filter.1 member
    have back : difference ^^^ vector ^^^ vector = difference := by
      rw [Nat.xor_assoc, Nat.xor_self, Nat.xor_zero]
    refine ⟨difference ^^^ vector, ?_, back⟩
    rw [Finset.mem_filter, Finset.mem_range, alike, back]
    exact ⟨Nat.xor_lt_two_pow (Finset.mem_range.1 inside) bound, killed⟩

/-- A function that does not see the kernel takes two to the power of the rank
values. -/
theorem card_image_value
    (alike : ∀ first second, value first = value second ↔ Kills matrix.rows (first ^^^ second)) :
    ((Finset.range (2 ^ matrix.columns)).image value).card = 2 ^ matrix.rank := by
  have fibres : ∀ found ∈ (Finset.range (2 ^ matrix.columns)).image value,
      ((Finset.range (2 ^ matrix.columns)).filter (value · = found)).card =
        2 ^ matrix.nullSpace.length := by
    intro found member
    obtain ⟨vector, inside, rfl⟩ := Finset.mem_image.1 member
    exact matrix.card_filter_value alike (Finset.mem_range.1 inside)
  have counted := Finset.card_eq_sum_card_image value (Finset.range (2 ^ matrix.columns))
  rw [Finset.sum_const_nat fibres, Finset.card_range] at counted
  have powers : 2 ^ matrix.columns =
      2 ^ matrix.rank * 2 ^ matrix.nullSpace.length := by
    rw [← matrix.rank_add_length_null_space]
    exact Nat.pow_add 2 _ _
  exact Nat.eq_of_mul_eq_mul_right (Nat.two_pow_pos _) (counted.symm.trans powers)

end StabilizerPrep.Matrix

namespace StabilizerPrep.Stabilizer

set_option autoImplicit false

open Mask StabilizerPrep.Matrix

theorem ncard_unsigned_group (stabilizer : Stabilizer) :
    stabilizer.unsignedGroup.ncard = 2 ^ stabilizer.checkMatrix.rank := by
  let masks := fun selection => (combine stabilizer.xs selection, combine stabilizer.zs selection)
  have alike : ∀ first second, masks first = masks second ↔
      Kills stabilizer.checkMatrix.rows (first ^^^ second) := by
    intro first second
    rw [kills_check_matrix_iff, combine_xor, combine_xor, Nat.xor_eq_zero_iff, Nat.xor_eq_zero_iff]
    exact Prod.mk_inj
  have listed : stabilizer.unsignedGroup =
      ↑((Finset.range (2 ^ stabilizer.checkMatrix.columns)).image masks) := by
    ext element
    rw [mem_unsigned_group_iff, Finset.mem_coe, Finset.mem_image, columns_check_matrix]
    constructor
    · intro contained
      obtain ⟨selection, bound, sameX, sameZ⟩ := contained.exists_lt
      exact ⟨selection, Finset.mem_range.2 bound, Prod.ext sameX sameZ⟩
    · rintro ⟨selection, _, rfl⟩
      exact ⟨selection, rfl, rfl⟩
  rw [listed, Set.ncard_coe_finset]
  exact stabilizer.checkMatrix.card_image_value alike

theorem Valid.ncard_unsigned_group {stabilizer : Stabilizer} (valid : stabilizer.Valid) :
    stabilizer.unsignedGroup.ncard = 2 ^ stabilizer.qubits := by
  rw [stabilizer.ncard_unsigned_group, stabilizer.rank_check_matrix_iff.2 valid.independent]

end StabilizerPrep.Stabilizer
