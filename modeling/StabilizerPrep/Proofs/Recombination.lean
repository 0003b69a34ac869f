import StabilizerPrep.Proofs.Canonicity
import StabilizerPrep.Proofs.GroupOrder
import StabilizerPrep.Proofs.LayersOnStates

/-!
# Recombined generators

An invertible matrix behind the two parts of a stabilizer replaces the
generators by products of them and keeps their span. Layers move the span, but
keep its size and whether its elements commute. Since classification looks at
these and at local invariants only, it has one outcome for all stabilizers that
arise so, also where it refuses them.
-/

namespace StabilizerPrep.Stabilizer

set_option autoImplicit false

open Mask StabilizerPrep.Matrix

variable {first second stabilizer : Stabilizer} {layer : Layer}

theorem mul_vec_x_part (stabilizer : Stabilizer) (selection : Nat) :
    stabilizer.xPart.mulVec selection = combine stabilizer.xs selection := by
  rw [x_part_eq_of_columns, mul_vec_of_columns (by simpa using stabilizer.xs_lt)]

theorem mul_vec_z_part (stabilizer : Stabilizer) (selection : Nat) :
    stabilizer.zPart.mulVec selection = combine stabilizer.zs selection := by
  rw [z_part_eq_of_columns, mul_vec_of_columns (by simpa using stabilizer.zs_lt)]

theorem contains_iff_of_mul {mixing : Matrix} (invertible : mixing.IsInvertible first.qubits)
    (xMixed : second.xPart = first.xPart.mul mixing)
    (zMixed : second.zPart = first.zPart.mul mixing) (x z : Nat) :
    first.Contains x z ↔ second.Contains x z := by
  have mixed : ∀ selection,
      combine second.xs selection = combine first.xs (mixing.mulVec selection) ∧
        combine second.zs selection = combine first.zs (mixing.mulVec selection) := by
    intro selection
    rw [← mul_vec_x_part, ← mul_vec_z_part, ← mul_vec_x_part, ← mul_vec_z_part, xMixed, zMixed,
      mul_vec_mul, mul_vec_mul]
    exact ⟨rfl, rfl⟩
  constructor
  · intro contained
    obtain ⟨selection, bound, sameX, sameZ⟩ := contained.exists_lt
    obtain ⟨origin, rfl⟩ := invertible.exists_mul_vec_eq bound
    exact ⟨origin, (mixed origin).1.trans sameX, (mixed origin).2.trans sameZ⟩
  · rintro ⟨selection, sameX, sameZ⟩
    exact ⟨mixing.mulVec selection, (mixed selection).1.symm.trans sameX,
      (mixed selection).2.symm.trans sameZ⟩

/-- A layer sends the group of any stabilizer, valid or not, onto that of the
image. -/
theorem carries_image (qubits : layer.qubits = stabilizer.qubits) :
    Carries layer stabilizer (stabilizer.image layer) where
  source := qubits
  target := by rw [qubits, qubits_image]
  contains x z xBound zBound := by
    have moved : ∀ selection,
        combine (stabilizer.image layer).xs selection =
            layer.actX (combine stabilizer.xs selection) (combine stabilizer.zs selection) ∧
          combine (stabilizer.image layer).zs selection =
            layer.actZ (combine stabilizer.xs selection) (combine stabilizer.zs selection) := by
      intro selection
      rw [xs_image qubits, zs_image qubits, xs, zs, Layer.act_x_combine, Layer.act_z_combine]
      exact ⟨rfl, rfl⟩
    constructor
    · rintro ⟨selection, rfl, rfl⟩
      exact ⟨selection, moved selection⟩
    · rintro ⟨selection, sameX, sameZ⟩
      have bounds : combine stabilizer.xs selection < 2 ^ layer.qubits ∧
          combine stabilizer.zs selection < 2 ^ layer.qubits := by
        rw [qubits]
        exact ⟨combine_lt stabilizer.xs_lt selection, combine_lt stabilizer.zs_lt selection⟩
      rw [(moved selection).1] at sameX
      rw [(moved selection).2] at sameZ
      exact ⟨selection, Layer.act_injective bounds ⟨xBound, zBound⟩ sameX sameZ⟩

theorem LocallyEquivalent.qubits_eq (equivalent : LocallyEquivalent first second) :
    first.qubits = second.qubits := by
  obtain ⟨layer, carries⟩ := equivalent
  exact carries.source.symm.trans carries.target

theorem LocallyEquivalent.rank_eq (equivalent : LocallyEquivalent first second) :
    first.checkMatrix.rank = second.checkMatrix.rank := by
  obtain ⟨layer, same, image⟩ := (relabels_to_one_iff rfl equivalent.qubits_eq.symm).2 equivalent
  have injective :
      Set.InjOn (layer.carry (1 : Equiv.Perm (Fin first.qubits))) first.unsignedGroup := by
    intro masks member other otherMember sent
    have own := Layer.carry_undo same 1 (within_unsigned_group member)
    rw [sent, Layer.carry_undo same 1 (within_unsigned_group otherMember)] at own
    exact own.symm
  have orders := injective.ncard_image
  rw [image, ncard_unsigned_group, ncard_unsigned_group] at orders
  exact (Nat.pow_right_injective (Nat.le_refl 2) orders).symm

theorem commutes_with_self_iff : stabilizer.commutesWith stabilizer = true ↔
    ∀ x z otherX otherZ, stabilizer.Contains x z → stabilizer.Contains otherX otherZ →
      dot x otherZ = dot z otherX := by
  simp only [commutesWith, List.all_eq_true]
  constructor
  · intro isotropic x z otherX otherZ
    exact dot_eq_of_isotropic isotropic
  · intro commuting generator member other otherMember
    rw [Generator.commutes_eq, beq_iff_eq]
    exact commuting _ _ _ _ (contains_generator member) (contains_generator otherMember)

theorem LocallyEquivalent.commutes_with_self (equivalent : LocallyEquivalent first second)
    (commuting : first.commutesWith first = true) : second.commutesWith second = true := by
  obtain ⟨layer, carries⟩ := equivalent.symm
  rw [commutes_with_self_iff] at commuting ⊢
  intro x z otherX otherZ contained otherContained
  have bounds := contained.bounded
  have otherBounds := otherContained.bounded
  rw [← carries.source] at bounds otherBounds
  rw [← Layer.dot_act_iff bounds.1 bounds.2]
  exact commuting _ _ _ _ ((carries.contains x z bounds.1 bounds.2).1 contained)
    ((carries.contains otherX otherZ otherBounds.1 otherBounds.2).1 otherContained)

/-- Validation has the same outcome on locally equivalent stabilizers. -/
theorem LocallyEquivalent.validate_eq (equivalent : LocallyEquivalent first second) :
    first.validate = second.validate := by
  have commuting : first.commutesWith first = second.commutesWith second := by
    rw [Bool.eq_iff_iff]
    exact ⟨equivalent.commutes_with_self, equivalent.symm.commutes_with_self⟩
  rw [validate, validate, equivalent.rank_eq, equivalent.qubits_eq, commuting]

theorem LocallyEquivalent.classify_eq (equivalent : LocallyEquivalent first second) :
    classify first = classify second := by
  have qubits := equivalent.qubits_eq
  have outcomes : classify? first = classify? second := by
    by_cases supported : 2 ≤ first.qubits ∧ first.qubits ≤ 6
    · obtain ⟨large, small⟩ := supported
      cases outcome : first.validate with
      | error fault =>
          have refused : second.validate = .error fault := by rw [← equivalent.validate_eq, outcome]
          rw [classify?_invalid large small outcome,
            classify?_invalid (qubits ▸ large) (qubits ▸ small) refused]
      | ok =>
          have accepted : second.validate = .ok () := by rw [← equivalent.validate_eq, outcome]
          have valid := first.validate_eq_ok_iff.1 outcome
          have secondValid := second.validate_eq_ok_iff.1 accepted
          obtain ⟨layer, carries⟩ := equivalent
          rw [valid.classify?_eq large small, secondValid.classify?_eq (qubits ▸ large)
            (qubits ▸ small), carries.invariants_eq valid]
    · rw [classify?_unsupported supported, classify?_unsupported (by rwa [← qubits]), qubits]
  rw [classify, classify, outcomes, qubits]

/-- Classification sees only what local Cliffords, another choice of generators
and other signs leave alone. Whatever layer transforms the parts of a stabilizer
on two to six qubits, whatever invertible matrix recombines its generators and
whatever signs they get, the outcome is the same class or the same error. -/
theorem classify_recombined (stabilizer : Stabilizer) (large : 2 ≤ stabilizer.qubits)
    (small : stabilizer.qubits ≤ 6) (layer : Layer) (qubits : layer.qubits = stabilizer.qubits)
    (mixing : Matrix) (invertible : mixing.IsInvertible stabilizer.qubits) (signs : List Bool)
    (length : signs.length = stabilizer.qubits) :
    let (x, z) := layer.transform stabilizer.xPart stabilizer.zPart
    ∃ mixed, ofMatrices (x.mul mixing).digits (z.mul mixing).digits
        (some (signs.map Bool.toNat)) = .ok mixed ∧
      mixed.xPart = x.mul mixing ∧ mixed.zPart = z.mul mixing ∧ mixed.signs = signs ∧
      classify mixed = classify stabilizer := by
  have moved := carries_image qubits
  rw [← parts_image qubits]
  have columns : mixing.columns = signs.length := invertible.2.1.trans length.symm
  have xHeight : ((stabilizer.image layer).xPart.mul mixing).height = signs.length := by
    rw [height_mul, height_x_part, qubits_image, length]
  have zHeight : ((stabilizer.image layer).zPart.mul mixing).height = signs.length := by
    rw [height_mul, height_z_part, qubits_image, length]
  have xPart := x_part_of_parts xHeight zHeight columns
  have zPart := z_part_of_parts xHeight zHeight columns
  have representable : signs.length ≤ Pauli.maxQubits := by
    rw [length]
    exact Nat.le_trans small (by decide)
  refine ⟨_, of_matrices_digits (by omega) representable xHeight columns zHeight columns, xPart,
    zPart, signs_of_parts _ _ _, ?_⟩
  have spanned := contains_iff_of_mul (by rwa [qubits_image]) xPart zPart
  have recombined := LocallyEquivalent.of_contains
    (by rw [qubits_image, qubits_of_parts, length]) spanned
  exact (LocallyEquivalent.trans ⟨layer, moved⟩ recombined).classify_eq.symm

/-- A Bell state under a layer, with another first generator and other signs,
and generators that do not commute. -/
theorem classify_recombined_pairs :
    let layer : Layer := ⟨[.h, .hs]⟩
    let mixing := Matrix.ofRows 2 [0b01, 0b11]
    let bell := ofGenerators [⟨0b11, 0, false⟩, ⟨0, 0b11, false⟩]
    let clash := ofGenerators [⟨0b01, 0, false⟩, ⟨0, 0b11, true⟩]
    (∃ mixed,
      ofMatrices ((layer.transform bell.xPart bell.zPart).1.mul mixing).digits
          ((layer.transform bell.xPart bell.zPart).2.mul mixing).digits (some [1, 0]) = .ok mixed ∧
        classify mixed = classify bell) ∧
    ∃ mixed,
      ofMatrices ((layer.transform clash.xPart clash.zPart).1.mul mixing).digits
          ((layer.transform clash.xPart clash.zPart).2.mul mixing).digits (some [0, 1]) =
            .ok mixed ∧
        classify mixed = .error (.invalidStabilizer .notCommuting) := by
  have invertible : (Matrix.ofRows 2 [0b01, 0b11]).IsInvertible 2 :=
    ⟨rfl, rfl, .ofRows 2 [0b01, 0b11], rfl, rfl, by decide, by decide⟩
  obtain ⟨mixed, taken, -, -, -, same⟩ := classify_recombined
    (ofGenerators [⟨0b11, 0, false⟩, ⟨0, 0b11, false⟩]) (by decide) (by decide) ⟨[.h, .hs]⟩ rfl _
    invertible [true, false] rfl
  obtain ⟨other, otherTaken, -, -, -, otherSame⟩ := classify_recombined
    (ofGenerators [⟨0b01, 0, false⟩, ⟨0, 0b11, true⟩]) (by decide) (by decide) ⟨[.h, .hs]⟩ rfl _
    invertible [false, true] rfl
  exact ⟨⟨mixed, taken, same⟩, other, otherTaken, otherSame.trans rfl⟩

end StabilizerPrep.Stabilizer
