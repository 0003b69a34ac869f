import StabilizerPrep.Proofs.GroupElements
import StabilizerPrep.Proofs.RotationOutcome

/-!
# Products of generators in place

A generator is replaced by its product with another one if both exist, are not
the same and commute. The masks are added and the sign is that of the exact
product; all other generators stay. A step that is refused leaves everything as
it was, and one that is made can be undone within the group. So any number of
steps keeps a valid stabilizer valid, and its group with all signs.
-/

namespace StabilizerPrep.Stabilizer

set_option autoImplicit false

open Mask

/-- The generators after one of them, the first of the pair, was to be
multiplied by the other. A product that is refused changes nothing. -/
def afterProduct (stabilizer : Stabilizer) (pair : Nat × Nat) : Stabilizer :=
  match stabilizer.multiply pair.1 pair.2 with
  | .ok changed => changed
  | .error _ => stabilizer

def afterProducts (stabilizer : Stabilizer) (pairs : List (Nat × Nat)) : Stabilizer :=
  pairs.foldl afterProduct stabilizer

structure Multipliable (stabilizer : Stabilizer) (target source : Nat) : Prop where
  target_lt : target < stabilizer.qubits
  source_lt : source < stabilizer.qubits
  distinct : target ≠ source
  commute : ∀ left ∈ stabilizer.pauli? target, ∀ right ∈ stabilizer.pauli? source,
    left.commutes right = true

variable {stabilizer changed : Stabilizer} {target source : Nat} {left right : Pauli}

theorem exists_pauli? {index : Nat} (inside : index < stabilizer.qubits) :
    ∃ pauli, stabilizer.pauli? index = some pauli :=
  ⟨_, List.getElem?_eq_getElem (by rwa [length_paulis])⟩

theorem lt_of_pauli? {index : Nat} {pauli : Pauli}
    (found : stabilizer.pauli? index = some pauli) : index < stabilizer.qubits := by
  obtain ⟨inside, -⟩ := List.getElem?_eq_some_iff.1 found
  rwa [length_paulis] at inside

theorem contains_of_mem_paulis {pauli : Pauli} (member : pauli ∈ stabilizer.paulis) :
    stabilizer.Contains pauli.x pauli.z := by
  obtain ⟨generator, inside, rfl⟩ := List.mem_map.1 member
  exact contains_generator inside

theorem paulis_of_generators_set {generator : Generator}
    (bounds : generator.x < 2 ^ stabilizer.qubits ∧
      generator.z < 2 ^ stabilizer.qubits) :
    (ofGenerators (stabilizer.generators.set target generator)).paulis =
      stabilizer.paulis.set target (generator.toPauli stabilizer.qubits) := by
  have kept : (ofGenerators (stabilizer.generators.set target generator)).generators =
      stabilizer.generators.set target generator := by
    apply generators_of_generators
    intro other member
    rw [List.length_set]
    rcases List.mem_or_eq_of_mem_set member with old | rfl
    · exact stabilizer.bounded other old
    · exact bounds
  rw [paulis, qubits, kept, List.length_set, List.map_set]
  rfl

theorem paulis_of_sign (leftFound : stabilizer.pauli? target = some left)
    (rightFound : stabilizer.pauli? source = some right) {negative : Bool}
    (signed : (left * right).sign = some negative) :
    (ofGenerators (stabilizer.generators.set target
      ⟨(left * right).x, (left * right).z, negative⟩)).paulis =
        stabilizer.paulis.set target (left * right) := by
  have leftMember := List.mem_of_getElem? leftFound
  have product := Pauli.eq_of_masks_of_sign signed
  rw [Pauli.qubits_mul, stabilizer.qubits_paulis left leftMember] at product
  have bounds := ((contains_of_mem_paulis leftMember).xor
    (contains_of_mem_paulis (List.mem_of_getElem? rightFound))).bounded
  rw [paulis_of_generators_set bounds, product]
  rfl

theorem multiply_eq (leftFound : stabilizer.pauli? target = some left)
    (rightFound : stabilizer.pauli? source = some right) (distinct : target ≠ source) :
    stabilizer.multiply target source =
      match (left * right).sign with
      | none => .error (.invalidStabilizer (.productNotHermitian target source))
      | some negative => .ok (ofGenerators (stabilizer.generators.set target
          ⟨(left * right).x, (left * right).z, negative⟩)) := by
  rw [multiply]
  simp only [leftFound, rightFound, if_neg distinct]
  rfl

theorem is_some_sign_iff_commutes (leftFound : stabilizer.pauli? target = some left)
    (rightFound : stabilizer.pauli? source = some right) :
    (left * right).sign.isSome = true ↔ left.commutes right = true :=
  Pauli.is_some_sign_mul_iff (stabilizer.is_some_sign_paulis left (List.mem_of_getElem? leftFound))
    (stabilizer.is_some_sign_paulis right (List.mem_of_getElem? rightFound))

theorem exists_multiply (leftFound : stabilizer.pauli? target = some left)
    (rightFound : stabilizer.pauli? source = some right) (distinct : target ≠ source)
    (commuting : left.commutes right = true) :
    ∃ changed, stabilizer.multiply target source = .ok changed := by
  rw [← is_some_sign_iff_commutes leftFound rightFound] at commuting
  obtain ⟨negative, signed⟩ := Option.isSome_iff_exists.1 commuting
  rw [multiply_eq leftFound rightFound distinct, signed]
  exact ⟨_, rfl⟩

theorem multiply_ok (done : stabilizer.multiply target source = .ok changed) :
    ∃ left right, stabilizer.pauli? target = some left ∧ stabilizer.pauli? source = some right ∧
      target ≠ source ∧ left.commutes right = true ∧
        changed.paulis = stabilizer.paulis.set target (left * right) := by
  -- the refusals in their order: target outside, source outside, equal numbers, no sign
  cases leftFound : stabilizer.pauli? target with
  | none =>
      rw [multiply, leftFound] at done
      cases done
  | some left =>
      cases rightFound : stabilizer.pauli? source with
      | none =>
          rw [multiply, leftFound, rightFound] at done
          cases done
      | some right =>
          have distinct : target ≠ source := by
            rintro rfl
            rw [multiply, leftFound] at done
            simp at done
          rw [multiply_eq leftFound rightFound distinct] at done
          cases signed : (left * right).sign with
          | none =>
              rw [signed] at done
              cases done
          | some negative =>
              rw [signed] at done
              obtain rfl := Except.ok.inj done
              have commuting : left.commutes right = true := by
                rw [← is_some_sign_iff_commutes leftFound rightFound, signed]
                rfl
              exact ⟨left, right, rfl, rfl, distinct, commuting,
                paulis_of_sign leftFound rightFound signed⟩

theorem exists_multiply_iff :
    (∃ changed, stabilizer.multiply target source = .ok changed) ↔
      stabilizer.Multipliable target source := by
  constructor
  · rintro ⟨changed, done⟩
    obtain ⟨left, right, leftFound, rightFound, distinct, commuting, -⟩ := multiply_ok done
    refine ⟨lt_of_pauli? leftFound, lt_of_pauli? rightFound, distinct, ?_⟩
    intro first firstIn second secondIn
    obtain rfl : left = first := Option.some.inj (leftFound.symm.trans firstIn)
    obtain rfl : right = second := Option.some.inj (rightFound.symm.trans secondIn)
    exact commuting
  · intro fits
    obtain ⟨left, leftFound⟩ := exists_pauli? fits.target_lt
    obtain ⟨right, rightFound⟩ := exists_pauli? fits.source_lt
    exact exists_multiply leftFound rightFound fits.distinct
      (fits.commute left leftFound right rightFound)

theorem Valid.mul_mem_signed_group (valid : stabilizer.Valid)
    (leftIn : left ∈ stabilizer.signedGroup) (rightIn : right ∈ stabilizer.signedGroup) :
    left * right ∈ stabilizer.signedGroup := by
  obtain ⟨first, firstBound, rfl⟩ := (valid.mem_signed_group_iff left).1 leftIn
  obtain ⟨second, secondBound, rfl⟩ := (valid.mem_signed_group_iff right).1 rightIn
  rw [← Pauli.choose_xor valid.commuting]
  exact (valid.mem_signed_group_iff _).2 ⟨_, Nat.xor_lt_two_pow firstBound secondBound, rfl⟩

/-- The old generators are products of the new ones: multiplying once more by
the same generator gives the replaced one back. -/
theorem contains_of_set (leftFound : stabilizer.pauli? target = some left)
    (rightFound : stabilizer.pauli? source = some right) (distinct : target ≠ source)
    (replaced : changed.paulis = stabilizer.paulis.set target (left * right)) :
    ∀ pauli ∈ stabilizer.paulis, changed.Contains pauli.x pauli.z := by
  -- those that were not replaced are still there, the factor on the right among them
  have others : ∀ {index : Nat} {pauli : Pauli}, stabilizer.paulis[index]? = some pauli →
      index ≠ target → changed.Contains pauli.x pauli.z := by
    intro index pauli found apart
    apply contains_of_mem_paulis
    rw [replaced]
    apply List.mem_of_getElem?
    rw [List.getElem?_set_ne (Ne.symm apart), found]
  intro pauli member
  obtain ⟨index, inside, own⟩ := List.mem_iff_getElem.1 member
  have found : stabilizer.paulis[index]? = some pauli := by
    rw [List.getElem?_eq_getElem inside, own]
  by_cases same : index = target
  · subst same
    obtain rfl : pauli = left := Option.some.inj (found.symm.trans leftFound)
    have product : changed.Contains (pauli * right).x (pauli * right).z := by
      apply contains_of_mem_paulis
      rw [replaced]
      exact List.mem_set inside _
    have again := product.xor (others rightFound (Ne.symm distinct))
    rwa [Pauli.mul_eq, Nat.xor_xor_cancel_right, Nat.xor_xor_cancel_right] at again
  · exact others found same

/-- A product that is made keeps a valid stabilizer valid and its group as it
is, signs included. -/
theorem Valid.of_multiply (valid : stabilizer.Valid)
    (done : stabilizer.multiply target source = .ok changed) :
    changed.Valid ∧ changed.signedGroup = stabilizer.signedGroup := by
  obtain ⟨left, right, leftFound, rightFound, distinct, -, replaced⟩ := multiply_ok done
  have same : stabilizer.qubits = changed.qubits := by
    rw [← length_paulis, ← length_paulis changed, replaced, List.length_set]
  have own : ∀ pauli ∈ stabilizer.paulis, pauli ∈ stabilizer.signedGroup :=
    mem_products stabilizer.qubits_paulis
  have elements : ∀ pauli ∈ changed.paulis, pauli ∈ stabilizer.signedGroup := by
    intro pauli member
    rw [replaced] at member
    rcases List.mem_or_eq_of_mem_set member with old | rfl
    · exact own pauli old
    · exact valid.mul_mem_signed_group (own left (List.mem_of_getElem? leftFound))
        (own right (List.mem_of_getElem? rightFound))
  have changedValid : changed.Valid := by
    apply valid.of_contains same
    intro generator member
    exact contains_of_set leftFound rightFound distinct replaced _ (List.mem_map_of_mem member)
  have signs : ∀ generator ∈ changed.generators,
      stabilizer.signInGroup generator.x generator.z = some generator.negative := by
    intro generator member
    obtain ⟨xBound, zBound⟩ := changed.bounded generator member
    have listed := elements _ (List.mem_map_of_mem member)
    rw [← same] at listed
    exact (valid.of_masks_mem_signed_group_iff (by rwa [same]) (by rwa [same]) _).1 listed
  have equivalent := changedValid.equivalent_of_signs valid same.symm signs
  exact ⟨changedValid, (changedValid.equivalent_iff_signed_group valid).1 equivalent.1⟩

theorem Valid.after_product (valid : stabilizer.Valid) (pair : Nat × Nat) :
    (stabilizer.afterProduct pair).Valid ∧
      (stabilizer.afterProduct pair).signedGroup = stabilizer.signedGroup := by
  rw [Stabilizer.afterProduct]
  cases outcome : stabilizer.multiply pair.1 pair.2 with
  | error fault => exact ⟨valid, rfl⟩
  | ok changed => exact valid.of_multiply outcome

theorem Valid.after_products (valid : stabilizer.Valid) (pairs : List (Nat × Nat)) :
    (stabilizer.afterProducts pairs).Valid ∧
      (stabilizer.afterProducts pairs).signedGroup = stabilizer.signedGroup := by
  induction pairs generalizing stabilizer with
  | nil => exact ⟨valid, rfl⟩
  | cons pair pairs ih =>
      have step := valid.after_product pair
      have rest := ih step.1
      exact ⟨rest.1, rest.2.trans step.2⟩

/-- Multiplying a generator by another one is all or nothing. It succeeds
exactly for two different generators that commute; then the one becomes the
exact product and no other changes. Otherwise it fails and everything stays. So
a valid stabilizer is valid and equivalent to the original after any products,
some of which may have failed. -/
theorem multiply_keeps_state (stabilizer : Stabilizer) :
    (∀ target source,
      ((∃ changed, stabilizer.multiply target source = .ok changed) ↔
        stabilizer.Multipliable target source) ∧
      (∀ changed, stabilizer.multiply target source = .ok changed →
        stabilizer.afterProduct (target, source) = changed ∧
        (∃ left right, stabilizer.pauli? target = some left ∧
          stabilizer.pauli? source = some right ∧
          changed.pauli? target = some (left * right)) ∧
        ∀ index, index ≠ target → changed.pauli? index = stabilizer.pauli? index) ∧
      (∀ fault, stabilizer.multiply target source = .error fault →
        stabilizer.afterProduct (target, source) = stabilizer)) ∧
    (stabilizer.validate = .ok () → ∀ pairs,
      (stabilizer.afterProducts pairs).validate = .ok () ∧
      (stabilizer.afterProducts pairs).equivalent stabilizer = true ∧
      stabilizer.equivalent (stabilizer.afterProducts pairs) = true) := by
  refine ⟨fun target source => ⟨exists_multiply_iff, ?_, ?_⟩, ?_⟩
  · intro changed done
    obtain ⟨left, right, leftFound, rightFound, -, -, replaced⟩ := multiply_ok done
    refine ⟨by rw [afterProduct, done], ⟨left, right, leftFound, rightFound, ?_⟩, ?_⟩
    · have inside : target < stabilizer.paulis.length := by
        rw [length_paulis]
        exact lt_of_pauli? leftFound
      rw [pauli?, replaced, List.getElem?_set_self inside]
    · intro index apart
      rw [pauli?, replaced, List.getElem?_set_ne (Ne.symm apart)]
      rfl
  · intro fault failed
    rw [afterProduct, failed]
  · intro validated pairs
    have valid := stabilizer.validate_eq_ok_iff.1 validated
    obtain ⟨finalValid, same⟩ := valid.after_products pairs
    exact ⟨(validate_eq_ok_iff _).2 finalValid,
      (finalValid.equivalent_iff_signed_group valid).2 same,
      (valid.equivalent_iff_signed_group finalValid).2 same.symm⟩

/-- The generators of a Bell state have a product with the sign minus. Among the
later pairs one repeats a number and one is outside. Generators that do not
commute stay as they are. -/
theorem multiply_keeps_state_bell :
    let bell := ofGenerators [⟨0b11, 0, false⟩, ⟨0, 0b11, false⟩]
    let clash := ofGenerators [⟨0b01, 0, false⟩, ⟨0, 0b11, true⟩]
    let pairs := [(0, 1), (1, 1), (1, 0), (0, 2)]
    bell.validate = .ok () ∧ bell.Multipliable 0 1 ∧
      (bell.afterProduct (0, 1)).pauli? 0 = some (.ofMasks 2 0b11 0b11 true) ∧
      (bell.afterProducts pairs).validate = .ok () ∧
      bell.equivalent (bell.afterProducts pairs) = true ∧
      ¬clash.Multipliable 0 1 ∧ clash.afterProduct (0, 1) = clash := by
  have bell := multiply_keeps_state (ofGenerators [⟨0b11, 0, false⟩, ⟨0, 0b11, false⟩])
  have clash := multiply_keeps_state (ofGenerators [⟨0b01, 0, false⟩, ⟨0, 0b11, true⟩])
  have run := bell.2 rfl [(0, 1), (1, 1), (1, 0), (0, 2)]
  refine ⟨rfl, (bell.1 0 1).1.1 ⟨_, rfl⟩, rfl, run.1, run.2.2, ?_, (clash.1 0 1).2.2 _ rfl⟩
  intro fits
  obtain ⟨changed, done⟩ := (clash.1 0 1).1.2 fits
  cases done

end StabilizerPrep.Stabilizer
