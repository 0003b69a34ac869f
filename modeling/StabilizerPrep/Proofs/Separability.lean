import StabilizerPrep.Proofs.Relabelling

/-!
# Qubits that factor out

An operator on one qubit commutes with another operator unless the two clash
there. If the generators place only one factor on a qubit, the operator with
this factor commutes with all of them, so it is in the group up to sign.
Conversely, an element that acts on one qubit only leaves no room for two
different factors there.
-/

namespace StabilizerPrep.Mask

set_option autoImplicit false

theorem test_bit_and_single (mask position other : Nat) :
    (mask &&& single position).testBit other =
      (mask.testBit position && decide (position = other)) := by
  rw [Nat.testBit_and, test_bit_single]
  by_cases own : position = other
  · subst own
    rfl
  · simp [own]

theorem dot_and_single (mask position other : Nat) :
    dot (mask &&& single position) other = (mask.testBit position && other.testBit position) := by
  have moved : dot (mask &&& single position) other = dot (single position) (mask &&& other) := by
    rw [dot, dot, Nat.and_comm mask, Nat.and_assoc]
  rw [moved, dot_single_left, Nat.testBit_and]

theorem and_single_of_support {mask position : Nat}
    (only : ∀ other, other ≠ position → mask.testBit other = false) :
    mask &&& single position = mask := by
  apply Nat.eq_of_testBit_eq
  intro other
  rw [test_bit_and_single]
  by_cases own : position = other
  · subst own
    simp
  · simp [own, only other (Ne.symm own)]

end StabilizerPrep.Mask

namespace StabilizerPrep.Factor

set_option autoImplicit false

theorem of_bits_eq_i_iff (x z : Bool) : ofBits x z = .i ↔ x = false ∧ z = false := by
  cases x <;> cases z <;> decide

end StabilizerPrep.Factor

namespace StabilizerPrep.Pauli

set_option autoImplicit false

def ActsOnlyOn (qubit : Nat) (pauli : Pauli) : Prop :=
  pauli.factor qubit ≠ .i ∧ ∀ other < pauli.qubits, other ≠ qubit → pauli.factor other = .i

end StabilizerPrep.Pauli

namespace StabilizerPrep.Stabilizer

set_option autoImplicit false

open Mask

variable {stabilizer : Stabilizer}

theorem clashes_eq_dot (qubit x z otherX otherZ : Nat) :
    clashes qubit x z otherX otherZ =
      (dot (x &&& single qubit) otherZ != dot (z &&& single qubit) otherX) := by
  rw [clashes, dot_and_single, dot_and_single]

/-- Factors that do not clash with one other than the identity do not clash with
each other. -/
theorem clashes_eq_false {qubit x z firstX firstZ secondX secondZ : Nat}
    (proper : Factor.ofBits (x.testBit qubit) (z.testBit qubit) ≠ .i)
    (first : clashes qubit x z firstX firstZ = false)
    (second : clashes qubit x z secondX secondZ = false) :
    clashes qubit firstX firstZ secondX secondZ = false := by
  have agrees : ∀ {otherX otherZ : Nat}, clashes qubit x z otherX otherZ = false →
      Factor.ofBits (otherX.testBit qubit) (otherZ.testBit qubit) ≠ .i →
      Factor.ofBits (x.testBit qubit) (z.testBit qubit) =
        Factor.ofBits (otherX.testBit qubit) (otherZ.testBit qubit) := by
    intro otherX otherZ quiet otherProper
    by_contra apart
    rw [(clashes_iff qubit x z otherX otherZ).2 ⟨proper, otherProper, apart⟩] at quiet
    cases quiet
  rw [← Bool.not_eq_true, clashes_iff]
  rintro ⟨firstProper, secondProper, apart⟩
  exact apart ((agrees first firstProper).symm.trans (agrees second secondProper))

theorem exists_factor_of_not_is_entangled {qubit : Nat}
    (separate : stabilizer.isEntangled qubit = false) :
    ∃ x z, Factor.ofBits (x.testBit qubit) (z.testBit qubit) ≠ .i ∧
      ∀ generator ∈ stabilizer.generators,
        clashes qubit x z generator.x generator.z = false := by
  rw [← Bool.not_eq_true, is_entangled_iff_generators] at separate
  by_cases touched : ∃ generator ∈ stabilizer.generators,
      Factor.ofBits (generator.x.testBit qubit) (generator.z.testBit qubit) ≠ .i
  · obtain ⟨first, member, proper⟩ := touched
    refine ⟨first.x, first.z, proper, fun second secondMember => ?_⟩
    rw [← Bool.not_eq_true]
    exact fun clash => separate ⟨first, member, second, secondMember, clash⟩
  · -- no generator acts on the qubit, so any factor will do
    refine ⟨0, single qubit, by simp [Factor.ofBits], fun generator member => ?_⟩
    rw [← Bool.not_eq_true, clashes_iff]
    exact fun clash => touched ⟨generator, member, clash.2.1⟩

/-- A qubit is not entangled exactly when an operator on this qubit alone is in
the group up to sign. -/
theorem Valid.is_entangled_eq_false_iff (valid : stabilizer.Valid) {qubit : Nat}
    (inside : qubit < stabilizer.qubits) :
    stabilizer.isEntangled qubit = false ↔
      ∃ x z, stabilizer.Contains (x &&& single qubit) (z &&& single qubit) ∧
        Factor.ofBits (x.testBit qubit) (z.testBit qubit) ≠ .i := by
  constructor
  · intro separate
    obtain ⟨x, z, proper, quiet⟩ := exists_factor_of_not_is_entangled separate
    refine ⟨x, z, ?_, proper⟩
    -- the group is maximal: it has every operator that commutes with the generators
    apply valid.contains_of_commutes (Nat.and_lt_two_pow x (single_lt inside))
      (Nat.and_lt_two_pow z (single_lt inside))
    intro generator member
    have commutes := quiet generator member
    rwa [clashes_eq_dot, bne_eq_false_iff_eq] at commutes
  · rintro ⟨x, z, contained, proper⟩
    have quiet : ∀ generator ∈ stabilizer.generators,
        clashes qubit x z generator.x generator.z = false := by
      intro generator member
      rw [clashes_eq_dot, valid.dot_eq contained (contains_generator member), bne_self_eq_false]
    rw [← Bool.not_eq_true, is_entangled_iff_generators]
    rintro ⟨first, firstMember, second, secondMember, clash⟩
    rw [clashes_eq_false proper (quiet first firstMember) (quiet second secondMember)] at clash
    cases clash

/-- The elements that act on one qubit only are, up to sign, the operators cut
down to it. -/
theorem exists_acts_only_on_iff (stabilizer : Stabilizer) (qubit : Nat) :
    (∃ element ∈ stabilizer.elements, element.ActsOnlyOn qubit) ↔
      ∃ x z, stabilizer.Contains (x &&& single qubit) (z &&& single qubit) ∧
        Factor.ofBits (x.testBit qubit) (z.testBit qubit) ≠ .i := by
  constructor
  · rintro ⟨element, member, acts, idle⟩
    have contained : stabilizer.Contains element.x element.z :=
      (mem_unsigned_group_iff stabilizer (element.x, element.z)).1 ⟨element, member, rfl⟩
    have only : ∀ other, other ≠ qubit →
        element.x.testBit other = false ∧ element.z.testBit other = false := by
      intro other apart
      by_cases below : other < stabilizer.qubits
      · rw [← qubits_products element member] at below
        exact (Factor.of_bits_eq_i_iff _ _).1 (idle other below apart)
      · have beyond := Nat.le_of_not_lt below
        exact ⟨test_bit_beyond contained.bounded.1 beyond,
          test_bit_beyond contained.bounded.2 beyond⟩
    refine ⟨element.x, element.z, ?_, acts⟩
    rwa [and_single_of_support fun other apart => (only other apart).1,
      and_single_of_support fun other apart => (only other apart).2]
  · rintro ⟨x, z, contained, proper⟩
    obtain ⟨element, member, masks⟩ := (mem_unsigned_group_iff stabilizer
      (x &&& single qubit, z &&& single qubit)).2 contained
    obtain ⟨sameX, sameZ⟩ := Prod.mk.inj masks
    have factor : ∀ other, element.factor other =
        Factor.ofBits (x.testBit qubit && decide (qubit = other))
          (z.testBit qubit && decide (qubit = other)) := by
      intro other
      rw [Pauli.factor, sameX, sameZ, test_bit_and_single, test_bit_and_single]
    refine ⟨element, member, ?_, fun other _ apart => ?_⟩
    · rwa [factor, decide_eq_true rfl, Bool.and_true, Bool.and_true]
    · rw [factor, decide_eq_false (Ne.symm apart), Bool.and_false, Bool.and_false]
      rfl

/-- The test for entanglement looks at one list of generators but speaks of the
whole group. On a valid stabilizer it says no for a qubit exactly when some
element acts on this qubit and is the identity on all others, and the mask of
entangled qubits has its answers as its bits. -/
theorem is_entangled_decides_factoring (stabilizer : Stabilizer)
    (validated : stabilizer.validate = .ok ()) (qubit : Nat)
    (inside : qubit < stabilizer.qubits) :
    (stabilizer.isEntangled? qubit = some false ↔
      ∃ element ∈ stabilizer.elements, element.ActsOnlyOn qubit) ∧
    stabilizer.isEntangled? qubit = some (stabilizer.entangledMask.testBit qubit) ∧
    stabilizer.entangledMask < 2 ^ stabilizer.qubits := by
  have valid := stabilizer.validate_eq_ok_iff.1 validated
  have answer : stabilizer.isEntangled? qubit = some (stabilizer.isEntangled qubit) :=
    if_pos (Or.inr inside)
  refine ⟨?_, ?_, of_test_lt _ _⟩
  · rw [answer, Option.some.injEq, valid.is_entangled_eq_false_iff inside, exists_acts_only_on_iff]
  · rw [answer, entangledMask, test_bit_of_test, decide_eq_true inside, Bool.true_and]

/-- A Bell pair beside a qubit in an eigenstate of `Y`. -/
theorem is_entangled_decides_factoring_pair :
    let state := ofGenerators [⟨0b011, 0, false⟩, ⟨0b111, 0b100, true⟩, ⟨0, 0b011, false⟩]
    state.validate = .ok () ∧ (∃ element ∈ state.elements, element.ActsOnlyOn 2) ∧
      ¬(∃ element ∈ state.elements, element.ActsOnlyOn 1) ∧ state.entangledMask = 0b011 := by
  have validated : (ofGenerators
      [⟨0b011, 0, false⟩, ⟨0b111, 0b100, true⟩, ⟨0, 0b011, false⟩]).validate = .ok () := rfl
  have alone := (is_entangled_decides_factoring _ validated 2 (by decide)).1
  have paired := (is_entangled_decides_factoring _ validated 1 (by decide)).1
  exact ⟨validated, alone.1 rfl, fun found => absurd (paired.2 found) (by decide), rfl⟩

end StabilizerPrep.Stabilizer
