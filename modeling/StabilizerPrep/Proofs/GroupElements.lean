import Mathlib.Data.Finset.Card
import StabilizerPrep.Proofs.GroupEquality

/-!
# The list of all elements

The list of products has one entry for each selection of generators, with a
phase that is exact also where generators do not commute. All its entries are
Hermitian exactly when the generators commute, and their masks are distinct
exactly when the generators are independent. In a valid group the entries
multiply as the selections are added, and looking an operator up finds the
sign under which it is listed. The group of more than 57 qubits has more elements
than fit into a list, but its operators are looked up all the same.
-/

namespace StabilizerPrep.Stabilizer

set_option autoImplicit false

open Mask StabilizerPrep.Matrix

section Products

variable {qubits : Nat} {pauli : Pauli} {paulis others : List Pauli}

theorem mem_products_cons {product : Pauli} :
    product ∈ products qubits (pauli :: others) ↔
      ∃ rest ∈ products qubits others, product = rest ∨ product = rest * pauli := by
  simp [products]

theorem identity_mem_products : Pauli.identity qubits ∈ products qubits paulis := by
  induction paulis with
  | nil => exact List.mem_singleton_self _
  | cons pauli others ih => exact mem_products_cons.2 ⟨_, ih, .inl rfl⟩

theorem mem_products (sizes : ∀ pauli ∈ paulis, pauli.qubits = qubits) :
    ∀ pauli ∈ paulis, pauli ∈ products qubits paulis := by
  induction paulis with
  | nil =>
      intro pauli member
      cases member
  | cons first others ih =>
      intro pauli member
      rcases List.mem_cons.1 member with rfl | later
      · have alone := Pauli.identity_mul (sizes pauli List.mem_cons_self)
        exact mem_products_cons.2 ⟨_, identity_mem_products, .inr alone.symm⟩
      · have listed := ih (fun other inside => sizes other (List.mem_cons_of_mem _ inside))
          pauli later
        exact mem_products_cons.2 ⟨pauli, listed, .inl rfl⟩

theorem commutes_of_mem_products (commuting : ∀ other ∈ others, other.commutes pauli = true) :
    ∀ product ∈ products qubits others, product.commutes pauli = true := by
  induction others with
  | nil =>
      intro product member
      rw [List.mem_singleton.1 member, Pauli.commutes_eq]
      simp [Pauli.identity]
  | cons other others ih =>
      intro product member
      have first := commuting other List.mem_cons_self
      have rest := ih fun later inside => commuting later (List.mem_cons_of_mem _ inside)
      obtain ⟨shorter, listed, rfl | rfl⟩ := mem_products_cons.1 member
      · exact rest product listed
      · rw [Pauli.commutes_mul_left, rest shorter listed, first]
        rfl

/-- The products of Hermitian operators are Hermitian exactly when the operators
commute in pairs. The product of a pair is one of them, with the later operator
in front. -/
theorem hermitian_products_iff (sizes : ∀ pauli ∈ paulis, pauli.qubits = qubits)
    (hermitian : ∀ pauli ∈ paulis, pauli.sign.isSome = true) :
    (∀ product ∈ products qubits paulis, product.sign.isSome = true) ↔
      paulis.Pairwise fun earlier later => later.commutes earlier = true := by
  induction paulis with
  | nil =>
      have identity : (Pauli.identity qubits).sign.isSome = true := by
        rw [Pauli.is_some_sign_iff]
        simp [Pauli.identity, weight_zero]
      simp [products, identity]
  | cons first others ih =>
      have own := hermitian first List.mem_cons_self
      have laterSizes : ∀ pauli ∈ others, pauli.qubits = qubits :=
        fun pauli member => sizes pauli (List.mem_cons_of_mem _ member)
      have later := ih laterSizes
        (fun pauli member => hermitian pauli (List.mem_cons_of_mem _ member))
      rw [List.pairwise_cons, ← later]
      constructor
      · intro all
        have shorter : ∀ product ∈ products qubits others, product.sign.isSome = true :=
          fun product member => all product (mem_products_cons.2 ⟨product, member, .inl rfl⟩)
        refine ⟨fun pauli member => ?_, shorter⟩
        have listed := mem_products laterSizes pauli member
        rw [← Pauli.is_some_sign_mul_iff (shorter pauli listed) own]
        exact all _ (mem_products_cons.2 ⟨pauli, listed, .inr rfl⟩)
      · rintro ⟨commuting, shorter⟩ product member
        obtain ⟨rest, listed, rfl | rfl⟩ := mem_products_cons.1 member
        · exact shorter product listed
        · rw [Pauli.is_some_sign_mul_iff (shorter rest listed) own]
          exact commutes_of_mem_products commuting rest listed

end Products

variable (stabilizer : Stabilizer)

theorem length_elements : stabilizer.elements.length = 2 ^ stabilizer.qubits := by
  simpa using congrArg List.length stabilizer.masks_elements

theorem is_some_sign_paulis : ∀ pauli ∈ stabilizer.paulis, pauli.sign.isSome = true := by
  intro pauli member
  obtain ⟨generator, _, rfl⟩ := List.mem_map.1 member
  exact Pauli.is_some_sign_of_masks _ _ _ _

theorem hermitian_elements_iff :
    (∀ element ∈ stabilizer.elements, element.sign.isSome = true) ↔
      ∀ first ∈ stabilizer.generators, ∀ second ∈ stabilizer.generators,
        first.commutes second = true := by
  have symmetric : Std.Symm fun earlier later : Generator =>
      (later.toPauli stabilizer.qubits).commutes (earlier.toPauli stabilizer.qubits) = true :=
    ⟨fun earlier later commuting => by rwa [Pauli.commutes_comm]⟩
  rw [elements, hermitian_products_iff stabilizer.qubits_paulis stabilizer.is_some_sign_paulis,
    paulis, List.pairwise_map]
  constructor
  · intro pairs first firstMember second secondMember
    have all := pairs.forall_of_forall fun generator _ => Pauli.commutes_self _
    exact all secondMember firstMember
  · intro isotropic
    apply List.pairwise_of_forall_mem_list
    intro earlier earlierMember later laterMember
    exact isotropic later laterMember earlier earlierMember

theorem nodup_masks_elements_iff :
    (stabilizer.elements.map fun element => (element.x, element.z)).Nodup ↔
      stabilizer.checkMatrix.rank = stabilizer.qubits := by
  let masks := stabilizer.elements.map fun element => (element.x, element.z)
  have length : masks.length = 2 ^ stabilizer.qubits := by
    rw [List.length_map, length_elements]
  have order : masks.toFinset.card = 2 ^ stabilizer.checkMatrix.rank := by
    have group : stabilizer.unsignedGroup = ↑masks.toFinset := by
      ext pair
      rw [List.coe_toFinset]
      exact List.mem_map.symm
    rw [← stabilizer.ncard_unsigned_group, group, Set.ncard_coe_finset]
  have distinct : masks.Nodup ↔ masks.toFinset.card = masks.length :=
    (Multiset.toFinset_card_eq_card_iff_nodup (m := (masks : Multiset (Nat × Nat)))).symm
  rw [distinct, order, length]
  exact (Nat.pow_right_injective (Nat.le_refl 2)).eq_iff

/-- Validation accepts exactly the generators whose list of elements is a list
of different Hermitian operators. -/
theorem validate_eq_ok_iff_elements :
    stabilizer.validate = .ok () ↔
      (∀ element ∈ stabilizer.elements, element.sign.isSome = true) ∧
        (stabilizer.elements.map fun element => (element.x, element.z)).Nodup := by
  rw [validate_eq_ok_iff, hermitian_elements_iff, nodup_masks_elements_iff, rank_check_matrix_iff]
  constructor
  · rintro ⟨independent, isotropic⟩
    exact ⟨isotropic, independent⟩
  · rintro ⟨isotropic, independent⟩
    exact ⟨independent, isotropic⟩

variable {stabilizer}

theorem Valid.getElem?_elements (valid : stabilizer.Valid) {selection : Nat}
    (bound : selection < 2 ^ stabilizer.qubits) :
    stabilizer.elements[selection]? =
      some (Pauli.choose stabilizer.qubits stabilizer.paulis selection) := by
  rw [valid.elements_eq, List.getElem?_map, List.getElem?_range bound]
  rfl

/-- A list of all elements is given for at most 57 qubits. It has one entry for
each selection of generators. The generators are valid exactly when all entries
are Hermitian and no two have the same masks. Then the entries multiply, phases
included, as selections are added: the product of two entries stands where the
exclusive or of their numbers points, generators stand at the powers of two, and
the identity comes first. -/
theorem expand_enumerates_group (stabilizer : Stabilizer) :
    ((∃ elements, stabilizer.expand? = some elements) ↔ stabilizer.qubits ≤ 57) ∧
    ∀ elements, stabilizer.expand? = some elements →
      elements.length = 2 ^ stabilizer.qubits ∧
      (stabilizer.validate = .ok () ↔
        (∀ element ∈ elements, element.sign.isSome = true) ∧
          (elements.map fun element => (element.x, element.z)).Nodup) ∧
      (stabilizer.validate = .ok () →
        (∀ first < 2 ^ stabilizer.qubits, ∀ second < 2 ^ stabilizer.qubits,
          ∃ left right, elements[first]? = some left ∧ elements[second]? = some right ∧
            elements[first ^^^ second]? = some (left * right)) ∧
        (∀ index < stabilizer.qubits, ∃ pauli, stabilizer.pauli? index = some pauli ∧
          elements[2 ^ index]? = some pauli) ∧
        elements[0]? = some (.identity stabilizer.qubits)) := by
  refine ⟨exists_expand_iff, fun elements expanded => ?_⟩
  obtain ⟨-, rfl⟩ := expand?_eq_some_iff.1 expanded
  refine ⟨stabilizer.length_elements, stabilizer.validate_eq_ok_iff_elements, fun validated => ?_⟩
  have valid := stabilizer.validate_eq_ok_iff.1 validated
  refine ⟨?_, ?_, ?_⟩
  · intro first firstBound second secondBound
    refine ⟨_, _, valid.getElem?_elements firstBound, valid.getElem?_elements secondBound, ?_⟩
    rw [valid.getElem?_elements (Nat.xor_lt_two_pow firstBound secondBound),
      Pauli.choose_xor valid.commuting]
  · intro index inside
    have listed : index < stabilizer.paulis.length := by rwa [length_paulis]
    refine ⟨_, List.getElem?_eq_getElem listed, ?_⟩
    change stabilizer.elements[single index]? = _
    rw [valid.getElem?_elements (single_lt inside), Pauli.choose_single stabilizer.qubits_paulis,
      List.getD_eq_getElem _ _ listed]
  · rw [valid.getElem?_elements (Nat.two_pow_pos stabilizer.qubits), Pauli.choose_zero]

/-- The generators of a Bell state, whose product is `-YY`, and two generators
that do not commute, whose product is not Hermitian. -/
theorem expand_enumerates_group_bell :
    let bell := ofGenerators [⟨0b11, 0, false⟩, ⟨0, 0b11, false⟩]
    let clash := ofGenerators [⟨0b01, 0, false⟩, ⟨0, 0b11, true⟩]
    bell.validate = .ok () ∧ bell.expand? = some bell.elements ∧
      bell.elements[2 ^^^ 1]? = some (.ofMasks 2 0b11 0b11 true) ∧
      (∃ left right, bell.elements[2]? = some left ∧ bell.elements[1]? = some right ∧
        bell.elements[2 ^^^ 1]? = some (left * right)) ∧
      ¬∀ element ∈ clash.elements, element.sign.isSome = true := by
  intro bell clash
  have listed := (expand_enumerates_group bell).2 bell.elements rfl
  have valid : bell.validate = .ok () := by decide
  exact ⟨valid, rfl, by decide, (listed.2.2 valid).1 2 (by decide) 1 (by decide), by decide⟩

/-- The generators of 58 qubits in the state plus are valid, but their `2 ^ 58`
products take more bytes than a list can. -/
theorem expand_without_room :
    let plus := ofGraph (.empty 58)
    plus.validate = .ok () ∧ plus.expand? = none :=
  ⟨validate_of_graph_empty 58, expand?_of_graph_empty (by decide)⟩

/-- Looking an operator up decides whether it is in the group of a valid
stabilizer and with which sign: it is found with a sign exactly when the group
has it with this sign, and it is not found exactly when the group has it with
neither. Where the elements fit into a list, that is, on at most 57 qubits, the
list has exactly the elements of the group. -/
theorem sign_in_group_decides_membership (stabilizer : Stabilizer)
    (validated : stabilizer.validate = .ok ()) (x z : Nat)
    (xBound : x < 2 ^ stabilizer.qubits) (zBound : z < 2 ^ stabilizer.qubits) :
    (∀ negative, stabilizer.signInGroup x z = some negative ↔
      Pauli.ofMasks stabilizer.qubits x z negative ∈ stabilizer.signedGroup) ∧
    (stabilizer.signInGroup x z = none ↔
      ∀ negative, Pauli.ofMasks stabilizer.qubits x z negative ∉ stabilizer.signedGroup) ∧
    ((∃ elements, stabilizer.expand? = some elements) ↔ stabilizer.qubits ≤ 57) ∧
    ∀ elements, stabilizer.expand? = some elements →
      ∀ element, element ∈ elements ↔ element ∈ stabilizer.signedGroup := by
  have valid := stabilizer.validate_eq_ok_iff.1 validated
  have found : ∀ negative, stabilizer.signInGroup x z = some negative ↔
      Pauli.ofMasks stabilizer.qubits x z negative ∈ stabilizer.signedGroup :=
    fun negative => (valid.of_masks_mem_signed_group_iff xBound zBound negative).symm
  refine ⟨found, ?_, exists_expand_iff, fun elements expanded element => ?_⟩
  · rw [Option.eq_none_iff_forall_ne_some]
    exact forall_congr' fun negative => not_congr (found negative)
  · obtain ⟨-, rfl⟩ := expand?_eq_some_iff.1 expanded
    exact Iff.rfl

/-- In the group of a Bell state `YY` has the sign minus, and `XI` is not there
with either sign. -/
theorem sign_in_group_decides_membership_bell :
    let bell := ofGenerators [⟨0b11, 0, false⟩, ⟨0, 0b11, false⟩]
    bell.validate = .ok () ∧ Pauli.ofMasks 2 0b11 0b11 true ∈ bell.signedGroup ∧
      (∀ negative, Pauli.ofMasks 2 0b01 0 negative ∉ bell.signedGroup) ∧
      ∃ elements, bell.expand? = some elements :=
  ⟨rfl,
    ((sign_in_group_decides_membership _ rfl 0b11 0b11 (by decide) (by decide)).1 true).1 rfl,
    (sign_in_group_decides_membership _ rfl 0b01 0 (by decide) (by decide)).2.1.1 rfl,
    (sign_in_group_decides_membership _ rfl 0b01 0 (by decide) (by decide)).2.2.1.2 (by decide)⟩

/-- The identity is found in the group of 58 qubits in the state plus, whose
elements do not fit into a list. -/
theorem sign_without_list :
    let plus := ofGraph (.empty 58)
    plus.validate = .ok () ∧ plus.signInGroup 0 0 = some false ∧ plus.expand? = none := by
  intro plus
  have validated : plus.validate = .ok () := validate_of_graph_empty 58
  have valid := plus.validate_eq_ok_iff.1 validated
  have width : 0 < 2 ^ plus.qubits := Nat.two_pow_pos _
  have identity : Pauli.ofMasks plus.qubits 0 0 false ∈ plus.signedGroup :=
    identity_mem_products
  exact ⟨validated, (valid.of_masks_mem_signed_group_iff width width false).1 identity,
    expand?_of_graph_empty (by decide)⟩

end StabilizerPrep.Stabilizer
