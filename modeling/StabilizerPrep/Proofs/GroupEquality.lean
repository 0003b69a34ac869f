import StabilizerPrep.Proofs.GroupOrder
import StabilizerPrep.Proofs.SignRotation

/-!
# Equality of groups

The elements of the group of a valid stabilizer are the products of selected
generators, and each of them carries the sign under which it is found. So the
two ways in which stabilizers are compared tell whether the groups are equal
without and with signs, although generators are looked up in one direction
only. Both are equivalence relations.
-/

namespace StabilizerPrep.Stabilizer

set_option autoImplicit false

open Mask StabilizerPrep.Matrix

/-- The elements of the group, signs included. -/
def signedGroup (stabilizer : Stabilizer) : Set Pauli :=
  {element | element ∈ stabilizer.elements}

theorem products_eq_map_choose {qubits : Nat} {paulis : List Pauli}
    (commuting : Pauli.Commuting qubits paulis) :
    products qubits paulis =
      (List.range (2 ^ paulis.length)).map (Pauli.choose qubits paulis) := by
  induction paulis with
  | nil => rfl
  | cons pauli others ih =>
      have double : 2 ^ (pauli :: others).length = 2 ^ others.length * 2 := rfl
      have halves : ∀ k, [2 * k, 2 * k + 1].map (Pauli.choose qubits (pauli :: others)) =
          [Pauli.choose qubits others k, Pauli.choose qubits others k * pauli] := by
        intro k
        have even : (2 * k).testBit 0 = false := by simp
        have odd : (2 * k + 1).testBit 0 = true := by simp
        have evenHalf : 2 * k / 2 = k := by omega
        have oddHalf : (2 * k + 1) / 2 = k := by omega
        have size := Pauli.qubits_choose commuting.tail.size k
        have own := commuting.size pauli List.mem_cons_self
        have commutes := Pauli.commutes_choose qubits (fun other member =>
          commuting.commute pauli List.mem_cons_self other (List.mem_cons_of_mem _ member)) k
        simp only [List.map_cons, List.map_nil, Pauli.choose, even, odd, evenHalf, oddHalf,
          Bool.false_eq_true, if_false, if_true]
        rw [Pauli.identity_mul size,
          Pauli.mul_comm_of_commutes (own.trans size.symm) commutes]
      rw [products, ih commuting.tail, double, range_double, List.map_flatMap, List.flatMap_map]
      simp only [halves]

variable {stabilizer : Stabilizer}

theorem Valid.elements_eq (valid : stabilizer.Valid) :
    stabilizer.elements = (List.range (2 ^ stabilizer.qubits)).map
      (Pauli.choose stabilizer.qubits stabilizer.paulis) := by
  rw [elements, products_eq_map_choose valid.commuting, length_paulis]

theorem Valid.mem_signed_group_iff (valid : stabilizer.Valid) (element : Pauli) :
    element ∈ stabilizer.signedGroup ↔
      ∃ selection < 2 ^ stabilizer.qubits,
        Pauli.choose stabilizer.qubits stabilizer.paulis selection = element := by
  change element ∈ stabilizer.elements ↔ _
  rw [valid.elements_eq, List.mem_map]
  simp only [List.mem_range]

/-- An operator is an element of the group with a sign exactly when it is found
with that sign. -/
theorem Valid.of_masks_mem_signed_group_iff (valid : stabilizer.Valid) {x z : Nat}
    (xBound : x < 2 ^ stabilizer.qubits) (zBound : z < 2 ^ stabilizer.qubits)
    (negative : Bool) :
    Pauli.ofMasks stabilizer.qubits x z negative ∈ stabilizer.signedGroup ↔
      stabilizer.signInGroup x z = some negative := by
  rw [valid.mem_signed_group_iff]
  constructor
  · rintro ⟨selection, bound, chosen⟩
    exact valid.sign_in_group_choose xBound zBound bound chosen
  · exact sign_in_group_some xBound zBound

theorem Valid.exists_of_mem_signed_group (valid : stabilizer.Valid) {element : Pauli}
    (member : element ∈ stabilizer.signedGroup) :
    ∃ x < 2 ^ stabilizer.qubits, ∃ z < 2 ^ stabilizer.qubits, ∃ negative,
      element = .ofMasks stabilizer.qubits x z negative := by
  obtain ⟨selection, -, rfl⟩ := (valid.mem_signed_group_iff element).1 member
  obtain ⟨negative, chosen⟩ := valid.exists_choose selection
  exact ⟨_, combine_lt stabilizer.xs_lt selection, _, combine_lt stabilizer.zs_lt selection,
    negative, chosen⟩

variable {first second : Stabilizer}

theorem Valid.qubits_eq (valid : first.Valid) (secondValid : second.Valid)
    (same : first.unsignedGroup = second.unsignedGroup) : first.qubits = second.qubits := by
  have orders := valid.ncard_unsigned_group
  rw [same, secondValid.ncard_unsigned_group] at orders
  exact Nat.pow_right_injective (Nat.le_refl 2) orders.symm

theorem Valid.same_up_to_signs_iff_unsigned_group (valid : first.Valid)
    (secondValid : second.Valid) :
    first.sameUpToSigns second = true ↔ first.unsignedGroup = second.unsignedGroup := by
  rw [valid.same_up_to_signs_iff_contains secondValid]
  constructor
  · rintro ⟨-, groups⟩
    ext masks
    rw [mem_unsigned_group_iff, mem_unsigned_group_iff, groups]
  · intro same
    refine ⟨valid.qubits_eq secondValid same, fun x z => ?_⟩
    rw [← mem_unsigned_group_iff first (x, z), same, mem_unsigned_group_iff]

theorem unsigned_group_eq_of_signed_group (same : first.signedGroup = second.signedGroup) :
    first.unsignedGroup = second.unsignedGroup := by
  ext masks
  have listed : ∀ element, element ∈ first.elements ↔ element ∈ second.elements :=
    fun element => Set.ext_iff.1 same element
  change (∃ element ∈ first.elements, _) ↔ ∃ element ∈ second.elements, _
  simp only [listed]

theorem Valid.equivalent_iff_signed_group (valid : first.Valid) (secondValid : second.Valid) :
    first.equivalent second = true ↔ first.signedGroup = second.signedGroup := by
  constructor
  · intro equivalent
    obtain ⟨alike, -⟩ := equivalent_iff.1 equivalent
    obtain ⟨qubits, -⟩ := same_up_to_signs_iff.1 alike
    have signs := valid.sign_in_group_congr secondValid equivalent
    ext element
    constructor
    · intro member
      obtain ⟨x, xBound, z, zBound, negative, rfl⟩ := valid.exists_of_mem_signed_group member
      have found := (valid.of_masks_mem_signed_group_iff xBound zBound negative).1 member
      rw [qubits] at xBound zBound ⊢
      rw [secondValid.of_masks_mem_signed_group_iff xBound zBound, ← signs, found]
    · intro member
      obtain ⟨x, xBound, z, zBound, negative, rfl⟩ := secondValid.exists_of_mem_signed_group member
      have found := (secondValid.of_masks_mem_signed_group_iff xBound zBound negative).1 member
      rw [← qubits] at xBound zBound ⊢
      rw [valid.of_masks_mem_signed_group_iff xBound zBound, signs, found]
  · intro same
    have qubits := valid.qubits_eq secondValid (unsigned_group_eq_of_signed_group same)
    -- every generator of the first is an element of the second, with its sign
    refine (valid.equivalent_of_signs secondValid qubits fun generator member => ?_).1
    obtain ⟨xBound, zBound⟩ := (contains_generator member).bounded
    have own := (valid.of_masks_mem_signed_group_iff xBound zBound _).2
      (valid.sign_in_group_generator member)
    rw [same, qubits] at own
    rw [qubits] at xBound zBound
    exact (secondValid.of_masks_mem_signed_group_iff xBound zBound _).1 own

theorem validate_of_graph_empty (size : Nat) : (ofGraph (.empty size)).validate = .ok () :=
  (validate_eq_ok_iff _).2 (valid_of_graph (Graph.simple_empty size))

theorem expand?_of_graph_empty {size : Nat} (large : 57 < size) :
    (ofGraph (.empty size)).expand? = none := by
  rw [expand?_eq_none_iff, qubits_of_graph, Graph.size_empty]
  exact large

theorem equivalence_of_iff {α β : Type} {relation : α → α → Prop} (value : α → β)
    (decided : ∀ first second, relation first second ↔ value first = value second) :
    Equivalence relation where
  refl first := (decided first first).2 rfl
  symm related := (decided _ _).2 ((decided _ _).1 related).symm
  trans earlier later := (decided _ _).2 (((decided _ _).1 earlier).trans ((decided _ _).1 later))

theorem same_up_to_signs_equivalence :
    Equivalence (fun first second : { stabilizer : Stabilizer // stabilizer.validate = .ok () } =>
      first.val.sameUpToSigns second.val = true) := by
  refine equivalence_of_iff (fun stabilizer => stabilizer.val.unsignedGroup) fun first second => ?_
  have valid := first.val.validate_eq_ok_iff.1 first.property
  have secondValid := second.val.validate_eq_ok_iff.1 second.property
  exact valid.same_up_to_signs_iff_unsigned_group secondValid

theorem equivalent_equivalence :
    Equivalence (fun first second : { stabilizer : Stabilizer // stabilizer.validate = .ok () } =>
      first.val.equivalent second.val = true) := by
  refine equivalence_of_iff (fun stabilizer => stabilizer.val.signedGroup) fun first second => ?_
  have valid := first.val.validate_eq_ok_iff.1 first.property
  have secondValid := second.val.validate_eq_ok_iff.1 second.property
  exact valid.equivalent_iff_signed_group secondValid

/-- The two comparisons decide equality of groups. Valid stabilizers, on any
number of qubits, are the same up to signs exactly when the masks of their
elements are, and they are equivalent exactly when their elements are, signs
included. So both comparisons are equivalence relations. The elements fit into
lists on at most 57 qubits, and only there; then these lists may be compared in
place of the groups. -/
theorem comparisons_decide_groups (first second : Stabilizer)
    (validated : first.validate = .ok ()) (secondValidated : second.validate = .ok ()) :
    (first.sameUpToSigns second = true ↔ first.unsignedGroup = second.unsignedGroup) ∧
    (first.equivalent second = true ↔ first.signedGroup = second.signedGroup) ∧
    ((∃ elements, first.expand? = some elements) ↔ first.qubits ≤ 57) ∧
    (∀ elements others, first.expand? = some elements → second.expand? = some others →
      (first.sameUpToSigns second = true ↔
        {masks | ∃ element ∈ elements, (element.x, element.z) = masks} =
          {masks | ∃ element ∈ others, (element.x, element.z) = masks}) ∧
      (first.equivalent second = true ↔
        {element | element ∈ elements} = {element | element ∈ others})) ∧
    Equivalence (fun first second : { stabilizer : Stabilizer // stabilizer.validate = .ok () } =>
      first.val.sameUpToSigns second.val = true) ∧
    Equivalence (fun first second : { stabilizer : Stabilizer // stabilizer.validate = .ok () } =>
      first.val.equivalent second.val = true) := by
  have valid := first.validate_eq_ok_iff.1 validated
  have secondValid := second.validate_eq_ok_iff.1 secondValidated
  have unsigned := valid.same_up_to_signs_iff_unsigned_group secondValid
  have signed := valid.equivalent_iff_signed_group secondValid
  refine ⟨unsigned, signed, exists_expand_iff, fun elements others listed otherListed => ?_,
    same_up_to_signs_equivalence, equivalent_equivalence⟩
  obtain ⟨-, rfl⟩ := expand?_eq_some_iff.1 listed
  obtain ⟨-, rfl⟩ := expand?_eq_some_iff.1 otherListed
  exact ⟨unsigned, signed⟩

/-- The group of a Bell state from other generators, and with another sign. -/
theorem comparisons_decide_groups_bell :
    let bell := ofGenerators [⟨0b11, 0, false⟩, ⟨0, 0b11, false⟩]
    let other := ofGenerators [⟨0b11, 0b11, true⟩, ⟨0, 0b11, false⟩]
    let flipped := ofGenerators [⟨0b11, 0b11, false⟩, ⟨0, 0b11, false⟩]
    bell.validate = .ok () ∧ other.validate = .ok () ∧ flipped.validate = .ok () ∧
      bell.signedGroup = other.signedGroup ∧ bell.unsignedGroup = flipped.unsignedGroup ∧
      bell.signedGroup ≠ flipped.signedGroup ∧
      ∃ elements others, bell.expand? = some elements ∧ other.expand? = some others ∧
        {element | element ∈ elements} = {element | element ∈ others} := by
  intro bell other flipped
  have alike := comparisons_decide_groups bell other (by decide) (by decide)
  have apart := comparisons_decide_groups bell flipped (by decide) (by decide)
  refine ⟨by decide, by decide, by decide, alike.2.1.1 (by decide), apart.1.1 (by decide),
    fun same => absurd (apart.2.1.2 same) (by decide), _, _, rfl, rfl, ?_⟩
  exact (alike.2.2.2.1 _ _ rfl rfl).2.1 (by decide)

/-- The state plus on 58 qubits is equivalent to itself, but its elements do not
fit into a list. -/
theorem comparisons_without_list :
    let plus := ofGraph (.empty 58)
    plus.validate = .ok () ∧ plus.sameUpToSigns plus = true ∧ plus.equivalent plus = true ∧
      plus.expand? = none := by
  intro plus
  have validated : plus.validate = .ok () := validate_of_graph_empty 58
  exact ⟨validated, same_up_to_signs_equivalence.refl ⟨plus, validated⟩,
    equivalent_equivalence.refl ⟨plus, validated⟩, expand?_of_graph_empty (by decide)⟩

end StabilizerPrep.Stabilizer
