import Mathlib.Data.Fintype.EquivFin
import StabilizerPrep.Proofs.SynthesisFaults

/-!
# Outcomes of sign rotation

A target is not validated before a circuit is rotated into it. It need not be:
the prepared group has as many elements as there are selections from the
generators of the target, so a target that has all of them has each of them
once, and nothing else. Its generators are then independent and commute. A
second rotation finds no wrong sign.
-/

namespace StabilizerPrep.Stabilizer

set_option autoImplicit false

open Mask StabilizerPrep.Matrix

variable {first second : Stabilizer}

/-- If the group of a valid stabilizer is part of the sums of as many other
generators, then every selection from those has the sum of one from its own. -/
theorem Valid.exists_selection (valid : first.Valid) (same : first.qubits = second.qubits)
    (contained : ∀ generator ∈ first.generators, second.Contains generator.x generator.z) :
    ∃ select : Fin (2 ^ first.qubits) → Fin (2 ^ first.qubits),
      Function.Surjective select ∧ ∀ selection,
        combine second.xs (select selection) = combine first.xs selection ∧
          combine second.zs (select selection) = combine first.zs selection := by
  have found : ∀ selection : Fin (2 ^ first.qubits),
      ∃ other : Fin (2 ^ first.qubits),
        combine second.xs other = combine first.xs selection ∧
          combine second.zs other = combine first.zs selection := by
    intro selection
    obtain ⟨other, bound, sums⟩ := (contains_combine contained selection.val).exists_lt
    rw [← same] at bound
    exact ⟨⟨other, bound⟩, sums⟩
  choose select sums using found
  have injective : Function.Injective select := by
    intro left right equal
    apply Fin.ext
    apply valid.selection_eq left.isLt right.isLt
    · rw [← (sums left).1, equal, (sums right).1]
    · rw [← (sums left).2, equal, (sums right).2]
  exact ⟨select, Finite.surjective_of_injective injective, sums⟩

/-- Generators that have all elements of a valid stabilizer's group as their
sums, and are not more than its own, are valid. -/
theorem Valid.of_contains (valid : first.Valid) (same : first.qubits = second.qubits)
    (contained : ∀ generator ∈ first.generators, second.Contains generator.x generator.z) :
    second.Valid := by
  obtain ⟨select, surjective, sums⟩ := valid.exists_selection same contained
  have origin : ∀ other < 2 ^ second.qubits, ∃ selection,
      (select selection).val = other := by
    intro other bound
    rw [← same] at bound
    obtain ⟨selection, equal⟩ := surjective ⟨other, bound⟩
    exact ⟨selection, congrArg Fin.val equal⟩
  constructor
  · -- a selection with the sum zero and the empty one come from the same element
    have zero : ∀ selection, combine second.xs (select selection) = 0 →
        combine second.zs (select selection) = 0 → selection.val = 0 := by
      intro selection noX noZ
      rw [(sums selection).1] at noX
      rw [(sums selection).2] at noZ
      exact valid.independent selection selection.isLt noX noZ
    intro other bound noX noZ
    obtain ⟨selection, rfl⟩ := origin other bound
    obtain ⟨empty, none⟩ := origin 0 (Nat.two_pow_pos _)
    have emptyZero : empty.val = 0 :=
      zero empty (by rw [none, combine_zero]) (by rw [none, combine_zero])
    have alike : selection = empty := Fin.ext ((zero selection noX noZ).trans emptyZero.symm)
    rw [alike, none]
  · have back : ∀ generator ∈ second.generators, first.Contains generator.x generator.z := by
      intro generator member
      obtain ⟨other, bound, sumX, sumZ⟩ := (contains_generator member).exists_lt
      obtain ⟨selection, rfl⟩ := origin other bound
      exact ⟨selection, (sums selection).1.symm.trans sumX, (sums selection).2.symm.trans sumZ⟩
    intro left leftMember right rightMember
    rw [Generator.commutes_eq, beq_iff_eq]
    exact valid.dot_eq (back left leftMember) (back right rightMember)

end StabilizerPrep.Stabilizer

namespace StabilizerPrep.Circuit

set_option autoImplicit false

variable {circuit rotated : Circuit} {target : Stabilizer}

theorem wrong_signs_of_signs {paulis : List Pauli} (index : Nat)
    (signs : ∀ pauli ∈ paulis, ∃ negative,
      target.signOf pauli = some negative ∧ pauli.sign = some negative) :
    wrongSigns target index paulis = .ok [] := by
  induction paulis generalizing index with
  | nil => rfl
  | cons pauli others ih =>
      obtain ⟨negative, wanted, own⟩ := signs pauli List.mem_cons_self
      have rest := ih (index + 1) fun other member => signs other (List.mem_cons_of_mem _ member)
      rw [wrongSigns, wanted]
      simp only
      rw [rest, own]
      change Except.ok (if some negative = some negative then [] else [index]) = _
      rw [if_pos rfl]

theorem valid_of_contains (wellFormed : circuit.WellFormed) (same : target.qubits = circuit.width)
    (contained : ∀ generator ∈ circuit.prepared.generators,
      target.Contains generator.x generator.z) : target.Valid :=
  (valid_prepared wellFormed).of_contains (by rw [qubits_prepared, same]) contained

/-- A rotated circuit is rotated into the same target by no gate at all. -/
theorem rotate_into_rotated (wellFormed : circuit.WellFormed)
    (done : circuit.rotateInto target = .ok rotated) : rotated.rotateInto target = .ok rotated := by
  obtain ⟨same, size, ⟨wrong, shape⟩, -, signs⟩ := rotate_into_ok wellFormed done
  have width : rotated.width = circuit.width := by rw [shape]
  rw [← width] at same size
  rw [rotate_into_eq size same, wrong_signs_of_signs 0 ?_]
  · rfl
  · intro pauli member
    obtain ⟨generator, generatorMember, rfl⟩ := List.mem_map.1 member
    exact ⟨generator.negative, signs generator generatorMember, Pauli.sign_of_masks _ _ _ _⟩

/-- Rotation is exact. On up to 64 qubits and for every target of the same
size, valid or not, a circuit is rotated exactly when every prepared generator
is, up to its sign, a product of generators of the target. Then the target is
valid, the rotated circuit has gates `x` on ascending qubits in front, it
prepares the target with its signs, and nothing is left to rotate. -/
theorem rotate_into_exact (wellFormed : circuit.WellFormed) (large : 1 ≤ circuit.width)
    (small : circuit.width ≤ 64) (same : target.qubits = circuit.width) :
    ((∃ rotated, circuit.rotateInto target = .ok rotated) ↔
      ∃ prepared, Stabilizer.ofCircuit circuit = .ok prepared ∧
        ∀ generator ∈ prepared.generators, target.Contains generator.x generator.z) ∧
    ∀ rotated, circuit.rotateInto target = .ok rotated →
      target.validate = .ok () ∧
      (∃ qubits : List Nat, qubits.Pairwise (· < ·) ∧ (∀ qubit ∈ qubits, qubit < circuit.width) ∧
        rotated = ⟨circuit.width,
          qubits.map (fun qubit => ⟨.x, [qubit]⟩) ++ circuit.instructions⟩) ∧
      (∃ prepared, Stabilizer.ofCircuit rotated = .ok prepared ∧
        prepared.equivalent target = true ∧ target.equivalent prepared = true) ∧
      rotated.rotateInto target = .ok rotated := by
  have size : Stabilizer.checkSize circuit.width = .ok () :=
    (check_size_eq_ok_iff _).2 ⟨large, small⟩
  have contained : ∀ {rotated}, circuit.rotateInto target = .ok rotated →
      ∀ generator ∈ circuit.prepared.generators, target.Contains generator.x generator.z :=
    fun done _ member => contains_of_rotate_into done (Stabilizer.contains_generator member)
  constructor
  · constructor
    · rintro ⟨rotated, done⟩
      exact ⟨_, of_circuit_eq size, contained done⟩
    · rintro ⟨prepared, simulated, held⟩
      obtain rfl := eq_prepared simulated
      exact exists_rotate_into size same (valid_of_contains wellFormed same held) held
  · intro rotated done
    have valid := valid_of_contains wellFormed same (contained done)
    obtain ⟨-, -, wrong, found, shape⟩ := exists_wrong_signs_of_rotate_into done
    obtain ⟨ascending, range, -⟩ := wrong_signs_ok found
    refine ⟨target.validate_eq_ok_iff.2 valid, ⟨wrong, ascending, ?_, shape⟩,
      rotate_into_equivalent wellFormed valid done, rotate_into_rotated wellFormed done⟩
    intro qubit member
    have below := (range qubit member).2
    rwa [Nat.zero_add, length_paulis_prepared] at below

/-- The Bell state with two signs, by other generators than the circuit
prepares. -/
theorem rotate_into_exact_bell :
    let circuit : Circuit := ⟨2, [⟨.h, [0]⟩, ⟨.cx, [0, 1]⟩]⟩
    let target := Stabilizer.ofGenerators [⟨0b11, 0, true⟩, ⟨0b11, 0b11, true⟩]
    let rotated : Circuit := ⟨2, [⟨.x, [0]⟩, ⟨.x, [1]⟩, ⟨.h, [0]⟩, ⟨.cx, [0, 1]⟩]⟩
    circuit.rotateInto target = .ok rotated ∧ target.validate = .ok () ∧
      (∃ prepared, Stabilizer.ofCircuit rotated = .ok prepared ∧
        prepared.equivalent target = true ∧ target.equivalent prepared = true) ∧
      rotated.rotateInto target = .ok rotated :=
  have outcome := (@rotate_into_exact ⟨2, [⟨.h, [0]⟩, ⟨.cx, [0, 1]⟩]⟩
    (.ofGenerators [⟨0b11, 0, true⟩, ⟨0b11, 0b11, true⟩])
    (List.forall_iff_forall_mem.1 (by decide)) (by decide) (by decide) rfl).2 _ rfl
  ⟨rfl, outcome.1, outcome.2.2.1, outcome.2.2.2⟩

end StabilizerPrep.Circuit
