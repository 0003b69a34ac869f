import Mathlib.Data.List.Perm.Subperm
import StabilizerPrep.Entanglement.Distribution
import StabilizerPrep.Proofs.GraphForm

/-!
# Invariance of the local invariants

Two valid stabilizers whose groups differ by a layer have the same local
invariants. A qubit is entangled when two elements anticommute on it, and an
element is the identity where its image is.
-/

namespace StabilizerPrep.Stabilizer

set_option autoImplicit false

open Mask StabilizerPrep.Matrix

variable {stabilizer : Stabilizer}

def clashes (qubit x z otherX otherZ : Nat) : Bool :=
  (x.testBit qubit && otherZ.testBit qubit) != (z.testBit qubit && otherX.testBit qubit)

theorem clashes_xor (qubit x z firstX firstZ secondX secondZ : Nat) :
    clashes qubit x z (firstX ^^^ secondX) (firstZ ^^^ secondZ) =
      (clashes qubit x z firstX firstZ != clashes qubit x z secondX secondZ) := by
  simp only [clashes, Nat.testBit_xor]
  cases x.testBit qubit <;> cases z.testBit qubit <;> cases firstX.testBit qubit <;>
    cases firstZ.testBit qubit <;> cases secondX.testBit qubit <;>
      cases secondZ.testBit qubit <;> rfl

theorem clashes_comm (qubit x z otherX otherZ : Nat) :
    clashes qubit x z otherX otherZ = clashes qubit otherX otherZ x z := by
  simp only [clashes]
  cases x.testBit qubit <;> cases z.testBit qubit <;> cases otherX.testBit qubit <;>
    cases otherZ.testBit qubit <;> rfl

theorem clashes_iff (qubit x z otherX otherZ : Nat) :
    clashes qubit x z otherX otherZ = true ↔
      Factor.ofBits (x.testBit qubit) (z.testBit qubit) ≠ .i ∧
        Factor.ofBits (otherX.testBit qubit) (otherZ.testBit qubit) ≠ .i ∧
        Factor.ofBits (x.testBit qubit) (z.testBit qubit) ≠
          Factor.ofBits (otherX.testBit qubit) (otherZ.testBit qubit) := by
  simp only [clashes]
  cases x.testBit qubit <;> cases z.testBit qubit <;> cases otherX.testBit qubit <;>
    cases otherZ.testBit qubit <;> decide

theorem mem_factors_at {qubit : Nat} {factor : Factor} :
    factor ∈ stabilizer.factorsAt qubit ↔
      ∃ generator ∈ stabilizer.generators,
        Factor.ofBits (generator.x.testBit qubit) (generator.z.testBit qubit) = factor ∧
          factor ≠ .i := by
  simp only [factorsAt, List.mem_filter, List.mem_map, decide_eq_true_eq]
  constructor
  · rintro ⟨⟨generator, member, same⟩, proper⟩
    exact ⟨generator, member, same, proper⟩
  · rintro ⟨generator, member, same, proper⟩
    exact ⟨⟨generator, member, same⟩, proper⟩

theorem is_entangled_iff_factors_at (qubit : Nat) :
    stabilizer.isEntangled qubit = true ↔
      ∃ first ∈ stabilizer.factorsAt qubit, ∃ second ∈ stabilizer.factorsAt qubit,
        first ≠ second := by
  rw [isEntangled]
  cases stabilizer.factorsAt qubit with
  | nil => simp
  | cons head others =>
      simp only [List.any_eq_true, decide_eq_true_eq]
      constructor
      · rintro ⟨other, member, apart⟩
        exact ⟨other, List.mem_cons_of_mem _ member, head, List.mem_cons_self, apart⟩
      · rintro ⟨first, firstMember, second, secondMember, apart⟩
        by_cases same : first = head
        · have other : second ≠ head := fun equal => apart (same.trans equal.symm)
          exact ⟨second, (List.mem_cons.1 secondMember).resolve_left other, other⟩
        · exact ⟨first, (List.mem_cons.1 firstMember).resolve_left same, same⟩

theorem is_entangled_iff_generators (qubit : Nat) :
    stabilizer.isEntangled qubit = true ↔
      ∃ first ∈ stabilizer.generators, ∃ second ∈ stabilizer.generators,
        clashes qubit first.x first.z second.x second.z = true := by
  rw [is_entangled_iff_factors_at]
  constructor
  · rintro ⟨first, firstMember, second, secondMember, apart⟩
    obtain ⟨firstGenerator, firstIn, rfl, firstProper⟩ := mem_factors_at.1 firstMember
    obtain ⟨secondGenerator, secondIn, rfl, secondProper⟩ := mem_factors_at.1 secondMember
    exact ⟨firstGenerator, firstIn, secondGenerator, secondIn,
      (clashes_iff _ _ _ _ _).2 ⟨firstProper, secondProper, apart⟩⟩
  · rintro ⟨first, firstIn, second, secondIn, clash⟩
    obtain ⟨firstProper, secondProper, apart⟩ := (clashes_iff _ _ _ _ _).1 clash
    exact ⟨_, mem_factors_at.2 ⟨first, firstIn, rfl, firstProper⟩, _,
      mem_factors_at.2 ⟨second, secondIn, rfl, secondProper⟩, apart⟩

/-- A qubit is entangled when two elements of the group anticommute on it. -/
theorem is_entangled_iff (qubit : Nat) :
    stabilizer.isEntangled qubit = true ↔
      ∃ x z otherX otherZ, stabilizer.Contains x z ∧ stabilizer.Contains otherX otherZ ∧
        clashes qubit x z otherX otherZ = true := by
  rw [is_entangled_iff_generators]
  constructor
  · rintro ⟨first, firstIn, second, secondIn, clash⟩
    exact ⟨_, _, _, _, contains_generator firstIn, contains_generator secondIn, clash⟩
  · rintro ⟨x, z, otherX, otherZ, contained, otherContained, clash⟩
    by_contra none
    push Not at none
    have zero : ∀ x z, clashes qubit x z 0 0 = false := by simp [clashes]
    have generators : ∀ generator ∈ stabilizer.generators,
        clashes qubit generator.x generator.z x z = false := by
      intro generator member
      refine contained.induction
        (fun otherX otherZ => clashes qubit generator.x generator.z otherX otherZ = false)
        (zero _ _) ?_ ?_
      · intro firstX firstZ secondX secondZ first second
        rw [clashes_xor, first, second]
        rfl
      · intro other otherMember
        exact Bool.eq_false_iff.2 (none generator member other otherMember)
    have all : clashes qubit x z otherX otherZ = false := by
      refine otherContained.induction
        (fun otherX otherZ => clashes qubit x z otherX otherZ = false) (zero _ _) ?_ ?_
      · intro firstX firstZ secondX secondZ first second
        rw [clashes_xor, first, second]
        rfl
      · intro generator member
        rw [clashes_comm]
        exact generators generator member
    rw [all] at clash
    exact absurd clash (by decide)

theorem clashes_act {layer : Layer} {qubit : Nat} (inside : qubit < layer.qubits)
    (x z otherX otherZ : Nat) :
    clashes qubit (layer.actX x z) (layer.actZ x z) (layer.actX otherX otherZ)
      (layer.actZ otherX otherZ) = clashes qubit x z otherX otherZ := by
  simp only [clashes, Layer.test_bit_act_x inside, Layer.test_bit_act_z inside]
  exact LocalClifford.form_act _ _ _ _ _

theorem Carries.is_entangled_of {layer : Layer} {first second : Stabilizer}
    (carries : Carries layer first second) {qubit : Nat} (inside : qubit < layer.qubits)
    (entangled : first.isEntangled qubit = true) : second.isEntangled qubit = true := by
  obtain ⟨x, z, otherX, otherZ, contained, otherContained, clash⟩ :=
    (is_entangled_iff qubit).1 entangled
  have bounds := contained.bounded
  have otherBounds := otherContained.bounded
  rw [← carries.source] at bounds otherBounds
  refine (is_entangled_iff qubit).2 ⟨_, _, _, _,
    (carries.contains x z bounds.1 bounds.2).1 contained,
    (carries.contains otherX otherZ otherBounds.1 otherBounds.2).1 otherContained, ?_⟩
  rw [clashes_act inside, clash]

theorem Carries.entangled_mask_eq {layer : Layer} {first second : Stabilizer}
    (carries : Carries layer first second) : first.entangledMask = second.entangledMask := by
  rw [entangledMask, entangledMask, ← carries.source, ← carries.target]
  apply eq_of_test_bit_below (of_test_lt _ _) (of_test_lt _ _)
  intro qubit inside
  rw [test_bit_of_test, test_bit_of_test]
  congr 1
  rw [Bool.eq_iff_iff]
  constructor
  · exact carries.is_entangled_of inside
  · exact carries.inverse.is_entangled_of (by simpa using inside)

theorem range_double (size : Nat) :
    List.range (size * 2) = (List.range size).flatMap fun k => [2 * k, 2 * k + 1] := by
  induction size with
  | zero => rfl
  | succ size ih =>
      have double : (size + 1) * 2 = size * 2 + 1 + 1 := by omega
      rw [double, List.range_succ, List.range_succ, ih, List.range_succ, List.flatMap_append,
        List.append_assoc, Nat.mul_comm size 2]
      rfl

theorem products_masks (qubits : Nat) (paulis : List Pauli) :
    (products qubits paulis).map (fun pauli => (pauli.x, pauli.z)) =
      (List.range (2 ^ paulis.length)).map fun selection =>
        (combine (paulis.map (·.x)) selection, combine (paulis.map (·.z)) selection) := by
  induction paulis with
  | nil => rfl
  | cons pauli others ih =>
      have double : 2 ^ (pauli :: others).length = 2 ^ others.length * 2 := rfl
      have step : ∀ product : Pauli,
          [product, product * pauli].map (fun pauli => (pauli.x, pauli.z)) =
            [(product.x, product.z), (pauli.x ^^^ product.x, pauli.z ^^^ product.z)] := by
        intro product
        rw [Nat.xor_comm pauli.x, Nat.xor_comm pauli.z]
        rfl
      rw [products, double, range_double, List.map_flatMap, List.map_flatMap]
      simp only [step, List.map_cons, List.map_nil, combine_cons_double,
        combine_cons_double_add_one]
      have expand := congrArg (List.flatMap fun pair : Nat × Nat =>
        [pair, (pauli.x ^^^ pair.1, pauli.z ^^^ pair.2)]) ih
      rw [List.flatMap_map, List.flatMap_map] at expand
      exact expand

def identityOf (stabilizer : Stabilizer) (selection : Nat) : Nat :=
  full stabilizer.qubits ^^^
    ((combine stabilizer.xs selection ||| combine stabilizer.zs selection) %
      2 ^ stabilizer.qubits)

theorem identity_of_lt (stabilizer : Stabilizer) (selection : Nat) :
    stabilizer.identityOf selection < 2 ^ stabilizer.qubits := by
  have positive := Nat.two_pow_pos stabilizer.qubits
  apply Nat.xor_lt_two_pow
  · exact Nat.sub_lt positive Nat.one_pos
  · exact Nat.mod_lt _ positive

theorem qubits_products {qubits : Nat} {paulis : List Pauli} :
    ∀ pauli ∈ products qubits paulis, pauli.qubits = qubits := by
  induction paulis with
  | nil =>
      intro pauli member
      rw [List.mem_singleton.1 member]
      rfl
  | cons first others ih =>
      intro pauli member
      obtain ⟨product, productIn, choice⟩ := List.mem_flatMap.1 member
      rcases List.mem_cons.1 choice with rfl | last
      · exact ih pauli productIn
      · rw [List.mem_singleton.1 last]
        exact ih product productIn

/-- An operator takes `2 ^ 5` bytes, so a list holds the elements of a group on at
most 57 qubits. -/
theorem list_fits_iff {qubits : Nat} : elementBytes * 2 ^ qubits < listBytes ↔ qubits ≤ 57 := by
  have bytes : elementBytes * 2 ^ qubits = 2 ^ (5 + qubits) := (Nat.pow_add 2 5 qubits).symm
  rw [bytes, listBytes, Nat.pow_lt_pow_iff_right (by decide)]
  omega

theorem expand?_eq_some_iff {listed : List Pauli} :
    stabilizer.expand? = some listed ↔ stabilizer.qubits ≤ 57 ∧ stabilizer.elements = listed := by
  rw [expand?, Option.ite_none_right_eq_some, list_fits_iff, Option.some_inj]

theorem expand?_eq_none_iff : stabilizer.expand? = none ↔ 57 < stabilizer.qubits := by
  rw [expand?, ite_eq_right_iff, list_fits_iff]
  simp only [reduceCtorEq, imp_false, Nat.not_le]

theorem exists_expand_iff :
    (∃ listed, stabilizer.expand? = some listed) ↔ stabilizer.qubits ≤ 57 := by
  rw [← Option.ne_none_iff_exists', ne_eq, expand?_eq_none_iff, Nat.not_lt]

theorem masks_elements (stabilizer : Stabilizer) :
    stabilizer.elements.map (fun element => (element.x, element.z)) =
      (List.range (2 ^ stabilizer.qubits)).map fun selection =>
        (combine stabilizer.xs selection, combine stabilizer.zs selection) := by
  rw [elements, products_masks, map_x_paulis, map_z_paulis, length_paulis]

theorem identity_masks_elements (stabilizer : Stabilizer) :
    stabilizer.elements.map Pauli.identityMask =
      (List.range (2 ^ stabilizer.qubits)).map stabilizer.identityOf := by
  have applied := congrArg (List.map fun pair : Nat × Nat =>
    full stabilizer.qubits ^^^ ((pair.1 ||| pair.2) % 2 ^ stabilizer.qubits))
    stabilizer.masks_elements
  rw [List.map_map, List.map_map] at applied
  rw [List.map_congr_left (g := fun pauli =>
    full stabilizer.qubits ^^^ ((pauli.x ||| pauli.z) % 2 ^ stabilizer.qubits))]
  · exact applied
  · intro pauli member
    rw [Pauli.identityMask, qubits_products pauli member]

theorem map_range_perm {bound : Nat} {move : Nat → Nat} (inside : ∀ k < bound, move k < bound)
    (injective : ∀ k < bound, ∀ l < bound, move k = move l → k = l) :
    ((List.range bound).map move).Perm (List.range bound) := by
  have distinct : ((List.range bound).map move).Nodup := by
    refine (List.nodup_map_iff_inj_on List.nodup_range).2 fun k kIn l lIn => ?_
    exact injective k (List.mem_range.1 kIn) l (List.mem_range.1 lIn)
  refine (distinct.subperm fun k member => ?_).perm_of_length_le (by simp)
  obtain ⟨origin, originIn, rfl⟩ := List.mem_map.1 member
  exact List.mem_range.2 (inside origin (List.mem_range.1 originIn))

/-- A layer carries the selections of the one group to those of the other. -/
theorem Carries.exists_selection {layer : Layer} {first second : Stabilizer}
    (carries : Carries layer first second) (selection : Nat) :
    ∃ other < 2 ^ first.qubits,
      combine second.xs other =
          layer.actX (combine first.xs selection) (combine first.zs selection) ∧
        combine second.zs other =
          layer.actZ (combine first.xs selection) (combine first.zs selection) := by
  have contained : first.Contains (combine first.xs selection) (combine first.zs selection) :=
    ⟨selection, rfl, rfl⟩
  have bounds := contained.bounded
  rw [← carries.source] at bounds
  rw [← carries.source, carries.target]
  exact ((carries.contains _ _ bounds.1 bounds.2).1 contained).exists_lt

theorem Carries.identity_masks_perm {layer : Layer} {first second : Stabilizer}
    (carries : Carries layer first second) (valid : first.Valid) :
    (first.elements.map Pauli.identityMask).Perm (second.elements.map Pauli.identityMask) := by
  have same : first.qubits = second.qubits := carries.source.symm.trans carries.target
  choose move moveBound moveX moveZ using carries.exists_selection
  have bounds : ∀ selection,
      combine first.xs selection < 2 ^ layer.qubits ∧
        combine first.zs selection < 2 ^ layer.qubits := by
    intro selection
    rw [carries.source]
    exact ⟨combine_lt first.xs_lt selection, combine_lt first.zs_lt selection⟩
  have agree : ∀ selection, first.identityOf selection = second.identityOf (move selection) := by
    intro selection
    rw [identityOf, identityOf, moveX, moveZ,
      Layer.act_or (bounds selection).1 (bounds selection).2, same]
  have injective : ∀ k < 2 ^ first.qubits, ∀ l < 2 ^ first.qubits,
      move k = move l → k = l := by
    intro k kBound l lBound equal
    obtain ⟨sameX, sameZ⟩ := Layer.act_injective (bounds k) (bounds l)
      (by rw [← moveX, equal, moveX]) (by rw [← moveZ, equal, moveZ])
    exact valid.selection_eq kBound lBound sameX sameZ
  rw [identity_masks_elements, identity_masks_elements, ← same,
    List.map_congr_left fun k _ => agree k]
  have mapped := (map_range_perm (fun k _ => moveBound k) injective).map second.identityOf
  rwa [List.map_map] at mapped

/-- Local Cliffords do not change the local invariants. -/
theorem Carries.invariants_eq {layer : Layer} {first second : Stabilizer}
    (carries : Carries layer first second) (valid : first.Valid) :
    Invariants.ofStabilizer first = Invariants.ofStabilizer second := by
  have same : first.qubits = second.qubits := carries.source.symm.trans carries.target
  have counts : Distribution.ofStabilizer first = Distribution.ofStabilizer second := by
    simp only [Distribution.ofStabilizer, same]
    congr 1
    apply List.map_congr_left
    intro mask _
    rw [(carries.identity_masks_perm valid).count_eq]
  rw [Invariants.ofStabilizer, Invariants.ofStabilizer, same, carries.entangled_mask_eq, counts]

end StabilizerPrep.Stabilizer
