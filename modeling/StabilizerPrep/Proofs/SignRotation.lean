import StabilizerPrep.Proofs.GraphForm
import StabilizerPrep.Proofs.Outcomes
import StabilizerPrep.Proofs.Simulation
import StabilizerPrep.Rotation

/-!
# Sign rotation

Two valid stabilizers have the same group, signs included, as soon as the
generators of the one are found in the other with their signs. Gates `x` in
front of a circuit change exactly the signs of the generators with the same
numbers, so the rotated circuit prepares its target.
-/

namespace StabilizerPrep.Pauli

set_option autoImplicit false

theorem exists_choose_eq_choose {qubits : Nat} {generators : List Pauli}
    (commuting : Commuting qubits generators) {width : Nat} {elements : List Pauli}
    (chosen : ∀ element ∈ elements, ∃ selection < 2 ^ width,
      choose qubits generators selection = element) (picked : Nat) :
    ∃ selection < 2 ^ width,
      choose qubits elements picked = choose qubits generators selection := by
  induction elements generalizing picked with
  | nil => exact ⟨0, Nat.two_pow_pos width, choose_zero.symm⟩
  | cons element elements ih =>
      obtain ⟨rest, restBound, restChosen⟩ :=
        ih (fun other member => chosen other (List.mem_cons_of_mem _ member)) (picked / 2)
      rw [choose, restChosen]
      split
      · obtain ⟨own, ownBound, ownChosen⟩ := chosen element List.mem_cons_self
        exact ⟨own ^^^ rest, Nat.xor_lt_two_pow ownBound restBound,
          by rw [choose_xor commuting, ownChosen]⟩
      · exact ⟨rest, restBound, identity_mul (qubits_choose commuting.size rest)⟩

end StabilizerPrep.Pauli

namespace StabilizerPrep.Stabilizer

set_option autoImplicit false

open Mask StabilizerPrep.Matrix

variable {first second : Stabilizer}

theorem same_up_to_signs_iff :
    first.sameUpToSigns second = true ↔ first.qubits = second.qubits ∧
      ∀ generator ∈ first.generators, ∀ other ∈ second.generators,
        generator.commutes other = true := by
  simp only [sameUpToSigns, Bool.and_eq_true, beq_iff_eq, commutesWith, List.all_eq_true]

theorem equivalent_iff :
    first.equivalent second = true ↔ first.sameUpToSigns second = true ∧
      ∀ generator ∈ second.generators,
        first.signInGroup generator.x generator.z = some generator.negative := by
  rw [equivalent, Bool.and_eq_true, List.all_eq_true, paulis]
  simp only [List.forall_mem_map, beq_iff_eq, Generator.toPauli, Pauli.sign_of_masks, signOf]
  rfl

theorem contains_of_sign_in_group {x z : Nat} {negative : Bool}
    (xBound : x < 2 ^ first.qubits) (zBound : z < 2 ^ first.qubits)
    (found : first.signInGroup x z = some negative) : first.Contains x z := by
  obtain ⟨selection, _, chosen⟩ := sign_in_group_some xBound zBound found
  obtain ⟨chosenX, chosenZ⟩ := Pauli.choose_masks first.qubits first.paulis selection
  rw [map_x_paulis, chosen] at chosenX
  rw [map_z_paulis, chosen] at chosenZ
  exact ⟨selection, chosenX.symm, chosenZ.symm⟩

/-- A group whose generators commute with those of a valid stabilizer is part
of its group. -/
theorem Valid.contains_of_commuting (valid : second.Valid) (same : first.qubits = second.qubits)
    (commuting : ∀ generator ∈ first.generators, ∀ other ∈ second.generators,
      dot generator.x other.z = dot generator.z other.x)
    {x z : Nat} (contained : first.Contains x z) : second.Contains x z := by
  obtain ⟨xBound, zBound⟩ := contained.bounded
  rw [same] at xBound zBound
  refine valid.contains_of_commutes xBound zBound fun other otherMember => ?_
  have crossed : dot other.x z = dot other.z x := by
    refine dot_eq_of_commutes_generators (fun generator member => ?_) contained
    rw [dot_comm, dot_comm other.z, commuting generator member other otherMember]
  rw [dot_comm, dot_comm z, crossed]

/-- Valid stabilizers are the same up to signs exactly when their groups are. -/
theorem Valid.same_up_to_signs_iff_contains (valid : first.Valid) (secondValid : second.Valid) :
    first.sameUpToSigns second = true ↔ first.qubits = second.qubits ∧
      ∀ x z, first.Contains x z ↔ second.Contains x z := by
  rw [same_up_to_signs_iff]
  constructor
  · rintro ⟨same, commutes⟩
    have commuting : ∀ generator ∈ first.generators, ∀ other ∈ second.generators,
        dot generator.x other.z = dot generator.z other.x := by
      intro generator member other otherMember
      have equation := commutes generator member other otherMember
      rwa [Generator.commutes_eq, beq_iff_eq] at equation
    refine ⟨same, fun x z => ⟨secondValid.contains_of_commuting same commuting,
      valid.contains_of_commuting same.symm fun other otherMember generator member => ?_⟩⟩
    rw [dot_comm, dot_comm other.z, commuting generator member other otherMember]
  · rintro ⟨same, groups⟩
    refine ⟨same, fun generator member other otherMember => ?_⟩
    rw [Generator.commutes_eq, beq_iff_eq]
    exact secondValid.dot_eq ((groups _ _).1 (contains_generator member))
      (contains_generator otherMember)

theorem Valid.exists_choose (valid : first.Valid) (selection : Nat) :
    ∃ negative, Pauli.choose first.qubits first.paulis selection =
      .ofMasks first.qubits (combine first.xs selection) (combine first.zs selection) negative := by
  have hermitian : ∀ pauli ∈ first.paulis, ∃ negative,
      pauli = .ofMasks first.qubits pauli.x pauli.z negative := by
    intro pauli member
    obtain ⟨generator, _, rfl⟩ := List.mem_map.1 member
    exact ⟨generator.negative, rfl⟩
  obtain ⟨negative, chosen⟩ :=
    Pauli.exists_choose_eq_of_masks valid.commuting.commute hermitian selection
  rw [map_x_paulis, map_z_paulis] at chosen
  exact ⟨negative, chosen⟩

theorem Valid.exists_sign (valid : first.Valid) {x z : Nat} (contained : first.Contains x z) :
    ∃ negative, first.signInGroup x z = some negative := by
  obtain ⟨xBound, zBound⟩ := contained.bounded
  obtain ⟨selection, bound, rfl, rfl⟩ := contained.exists_lt
  obtain ⟨negative, chosen⟩ := valid.exists_choose selection
  exact ⟨negative, valid.sign_in_group_choose xBound zBound bound chosen⟩

theorem Valid.sign_in_group_generator (valid : first.Valid) {generator : Generator}
    (member : generator ∈ first.generators) :
    first.signInGroup generator.x generator.z = some generator.negative := by
  obtain ⟨xBound, zBound⟩ := (contains_generator member).bounded
  obtain ⟨position, inside, rfl⟩ := List.mem_iff_getElem.1 member
  refine valid.sign_in_group_choose xBound zBound (single_lt inside) ?_
  rw [Pauli.choose_single first.qubits_paulis, paulis,
    List.getD_eq_getElem _ _ (by simpa using inside), List.getElem_map]
  rfl

/-- A group that has the generators of another one with their signs gives the
same signs as the other one. -/
theorem Valid.sign_in_group_of_signs (valid : second.Valid) (same : first.qubits = second.qubits)
    (signs : ∀ generator ∈ first.generators,
      second.signInGroup generator.x generator.z = some generator.negative)
    {x z : Nat} (xBound : x < 2 ^ first.qubits) (zBound : z < 2 ^ first.qubits)
    {negative : Bool} (found : first.signInGroup x z = some negative) :
    second.signInGroup x z = some negative := by
  obtain ⟨picked, -, product⟩ := sign_in_group_some xBound zBound found
  have chosen : ∀ element ∈ first.paulis, ∃ selection < 2 ^ second.qubits,
      Pauli.choose second.qubits second.paulis selection = element := by
    intro element member
    obtain ⟨generator, generatorMember, rfl⟩ := List.mem_map.1 member
    obtain ⟨ownX, ownZ⟩ := (contains_generator generatorMember).bounded
    rw [same] at ownX ownZ ⊢
    exact sign_in_group_some ownX ownZ (signs generator generatorMember)
  obtain ⟨selection, bound, rewritten⟩ :=
    Pauli.exists_choose_eq_choose valid.commuting chosen picked
  rw [same] at xBound zBound product
  exact valid.sign_in_group_choose xBound zBound bound (rewritten.symm.trans product)

/-- Two valid stabilizers are equivalent, in both directions, if every
generator of the first is found in the second with its sign. -/
theorem Valid.equivalent_of_signs (valid : first.Valid) (secondValid : second.Valid)
    (same : first.qubits = second.qubits)
    (signs : ∀ generator ∈ first.generators,
      second.signInGroup generator.x generator.z = some generator.negative) :
    first.equivalent second = true ∧ second.equivalent first = true := by
  have commuting : ∀ generator ∈ first.generators, ∀ other ∈ second.generators,
      dot generator.x other.z = dot generator.z other.x := by
    intro generator member other otherMember
    obtain ⟨xBound, zBound⟩ := (contains_generator member).bounded
    rw [same] at xBound zBound
    exact secondValid.dot_eq (contains_of_sign_in_group xBound zBound (signs generator member))
      (contains_generator otherMember)
  have alike : first.sameUpToSigns second = true := by
    refine same_up_to_signs_iff.2 ⟨same, fun generator member other otherMember => ?_⟩
    rw [Generator.commutes_eq, beq_iff_eq, commuting generator member other otherMember]
  obtain ⟨-, groups⟩ := (valid.same_up_to_signs_iff_contains secondValid).1 alike
  refine ⟨equivalent_iff.2 ⟨alike, fun generator member => ?_⟩, equivalent_iff.2 ⟨?_, signs⟩⟩
  · have contained := (groups _ _).2 (contains_generator member)
    obtain ⟨xBound, zBound⟩ := contained.bounded
    obtain ⟨negative, found⟩ := valid.exists_sign contained
    have own := secondValid.sign_in_group_of_signs same signs xBound zBound found
    rw [secondValid.sign_in_group_generator member] at own
    rw [found, own]
  · exact (secondValid.same_up_to_signs_iff_contains valid).2
      ⟨same.symm, fun x z => (groups x z).symm⟩

theorem sign_in_group_mod (stabilizer : Stabilizer) (x z : Nat) :
    stabilizer.signInGroup (x % 2 ^ stabilizer.qubits) (z % 2 ^ stabilizer.qubits) =
      stabilizer.signInGroup x z := by
  simp only [signInGroup, Nat.mod_mod]

theorem Valid.sign_in_group_congr (valid : first.Valid) (secondValid : second.Valid)
    (equivalent : first.equivalent second = true) (x z : Nat) :
    first.signInGroup x z = second.signInGroup x z := by
  obtain ⟨alike, signs⟩ := equivalent_iff.1 equivalent
  obtain ⟨same, groups⟩ := (valid.same_up_to_signs_iff_contains secondValid).1 alike
  rw [← sign_in_group_mod first, ← sign_in_group_mod second, same]
  have xBound := Nat.mod_lt x (Nat.two_pow_pos second.qubits)
  have zBound := Nat.mod_lt z (Nat.two_pow_pos second.qubits)
  cases found : second.signInGroup (x % 2 ^ second.qubits) (z % 2 ^ second.qubits) with
  | some negative => exact valid.sign_in_group_of_signs same.symm signs xBound zBound found
  | none =>
      cases own : first.signInGroup (x % 2 ^ second.qubits) (z % 2 ^ second.qubits) with
      | none => rfl
      | some negative =>
          have contained := contains_of_sign_in_group (by rwa [same]) (by rwa [same]) own
          obtain ⟨other, given⟩ := secondValid.exists_sign ((groups _ _).1 contained)
          rw [found] at given
          cases given

end StabilizerPrep.Stabilizer

namespace StabilizerPrep.Circuit

set_option autoImplicit false

open Mask

def flips (qubits : List Nat) : List Instruction :=
  qubits.map fun qubit => ⟨.x, [qubit]⟩

theorem wrong_signs_cons_ok {target : Stabilizer} {index : Nat} {pauli : Pauli}
    {others : List Pauli} {wrong : List Nat}
    (found : wrongSigns target index (pauli :: others) = .ok wrong) :
    ∃ wanted later, target.signOf pauli = some wanted ∧
      wrongSigns target (index + 1) others = .ok later ∧
      wrong = if pauli.sign = some wanted then later else index :: later := by
  rw [wrongSigns] at found
  split at found
  next => cases found
  next wanted sign =>
      obtain ⟨later, rest, built⟩ := exists_of_bind_ok found
      exact ⟨wanted, later, sign, rest, (Except.ok.inj built).symm⟩

theorem mem_if_cons {α : Type} {condition : Prop} [Decidable condition] {item first : α}
    {items : List α} :
    item ∈ (if condition then items else first :: items) ↔
      ¬condition ∧ item = first ∨ item ∈ items := by
  split
  next holds => simp [holds]
  next fails => simp [fails]

/-- The wrong signs are those of the operators whose sign is not that of the
target, and every operator is in the group of the target. -/
theorem wrong_signs_ok {target : Stabilizer} {index : Nat} {paulis : List Pauli}
    {wrong : List Nat} (found : wrongSigns target index paulis = .ok wrong) :
    wrong.Pairwise (· < ·) ∧ (∀ qubit ∈ wrong, index ≤ qubit ∧ qubit < index + paulis.length) ∧
      ∀ position, ∀ inside : position < paulis.length, ∃ wanted,
        target.signOf paulis[position] = some wanted ∧
          (index + position ∈ wrong ↔ paulis[position].sign ≠ some wanted) := by
  induction paulis generalizing index wrong with
  | nil =>
      obtain rfl : [] = wrong := Except.ok.inj found
      refine ⟨List.Pairwise.nil, by simp, ?_⟩
      intro position inside
      exact absurd inside (Nat.not_lt_zero position)
  | cons pauli others ih =>
      obtain ⟨wanted, later, sign, rest, rfl⟩ := wrong_signs_cons_ok found
      obtain ⟨ascending, range, laterSigns⟩ := ih rest
      refine ⟨?_, ?_, ?_⟩
      · split
        · exact ascending
        · exact List.pairwise_cons.2 ⟨fun qubit member => (range qubit member).1, ascending⟩
      · intro qubit member
        rw [List.length_cons]
        rcases mem_if_cons.1 member with ⟨-, rfl⟩ | laterMember
        · omega
        · have within := range qubit laterMember
          omega
      · intro position inside
        simp only [mem_if_cons]
        cases position with
        | zero =>
            have fresh : index ∉ later := fun member =>
              absurd (range index member).1 (Nat.not_succ_le_self index)
            exact ⟨wanted, sign, by simp [fresh]⟩
        | succ position =>
            obtain ⟨laterWanted, laterSign, membership⟩ :=
              laterSigns position (Nat.lt_of_succ_lt_succ inside)
            rw [Nat.add_assoc, Nat.add_comm 1] at membership
            refine ⟨laterWanted, laterSign, (or_iff_right ?_).trans membership⟩
            omega

theorem exists_wrong_signs {target : Stabilizer} {paulis : List Pauli} (index : Nat)
    (signed : ∀ pauli ∈ paulis, ∃ wanted, target.signOf pauli = some wanted) :
    ∃ wrong, wrongSigns target index paulis = .ok wrong := by
  induction paulis generalizing index with
  | nil => exact ⟨[], rfl⟩
  | cons pauli others ih =>
      obtain ⟨wanted, sign⟩ := signed pauli List.mem_cons_self
      obtain ⟨later, rest⟩ := ih (index + 1) fun other member =>
        signed other (List.mem_cons_of_mem _ member)
      rw [wrongSigns, sign]
      simp only
      rw [rest]
      exact ⟨_, rfl⟩

theorem follow_flips {wrong : List Nat} (distinct : wrong.Nodup) (qubit : Nat) (negative : Bool) :
    Generator.follow (flips wrong) ⟨0, single qubit, negative⟩ =
      ⟨0, single qubit, negative != decide (qubit ∈ wrong)⟩ := by
  induction wrong generalizing negative with
  | nil => simp [flips, Generator.follow]
  | cons first wrong ih =>
      obtain ⟨fresh, distinctRest⟩ := List.nodup_cons.1 distinct
      have step : Generator.conjugate ⟨.x, [first]⟩ ⟨0, single qubit, negative⟩ =
          ⟨0, single qubit, negative != decide (qubit = first)⟩ := by
        change Generator.mk _ _ (negative != (single qubit).testBit first) = _
        rw [test_bit_single]
      rw [flips, List.map_cons, Generator.follow, List.foldl_cons, step]
      refine (ih distinctRest (negative != decide (qubit = first))).trans ?_
      congr 1
      by_cases own : qubit = first
      · subst own
        simp [fresh]
      · simp [own]

variable {circuit : Circuit}

theorem well_formed_flips (wellFormed : circuit.WellFormed) {wrong : List Nat}
    (inside : ∀ qubit ∈ wrong, qubit < circuit.width) :
    (Circuit.mk circuit.width (flips wrong ++ circuit.instructions)).WellFormed := by
  intro instruction member
  rcases List.mem_append.1 member with front | rest
  · obtain ⟨qubit, qubitMember, rfl⟩ := List.mem_map.1 front
    exact Instruction.check_within_single (inside qubit qubitMember) rfl
  · exact wellFormed instruction rest

theorem follow_rotated {wrong : List Nat} (distinct : wrong.Nodup) (qubit : Nat) :
    Generator.follow (flips wrong ++ circuit.instructions) ⟨0, single qubit, false⟩ =
      (Generator.follow circuit.instructions ⟨0, single qubit, false⟩).flip
        (decide (qubit ∈ wrong)) := by
  rw [Generator.follow_append, follow_flips distinct, ← Generator.follow_flip]
  rfl

theorem length_paulis_prepared : circuit.prepared.paulis.length = circuit.width := by
  simp [Stabilizer.paulis, prepared, Stabilizer.ofGenerators, images]

theorem paulis_prepared (wellFormed : circuit.WellFormed) {qubit : Nat}
    (inside : qubit < circuit.prepared.paulis.length) :
    circuit.prepared.paulis[qubit] =
      (Generator.follow circuit.instructions ⟨0, single qubit, false⟩).toPauli circuit.width := by
  simp only [Stabilizer.paulis, generators_prepared wellFormed, qubits_prepared, images,
    List.getElem_map, List.getElem_range]

theorem rotate_into_eq {circuit : Circuit} {target : Stabilizer}
    (size : Stabilizer.checkSize circuit.width = .ok ()) (same : target.qubits = circuit.width) :
    circuit.rotateInto target = (wrongSigns target 0 circuit.prepared.paulis).map fun wrong =>
      ⟨circuit.width, flips wrong ++ circuit.instructions⟩ := by
  rw [rotateInto, if_neg (not_not.2 same), of_circuit_eq size]
  change (wrongSigns target 0 circuit.prepared.paulis >>= _) = _
  cases wrongSigns target 0 circuit.prepared.paulis <;> rfl

theorem exists_wrong_signs_of_rotate_into {circuit rotated : Circuit} {target : Stabilizer}
    (done : circuit.rotateInto target = .ok rotated) :
    target.qubits = circuit.width ∧ Stabilizer.checkSize circuit.width = .ok () ∧
      ∃ wrong, wrongSigns target 0 circuit.prepared.paulis = .ok wrong ∧
        rotated = ⟨circuit.width, flips wrong ++ circuit.instructions⟩ := by
  have same : target.qubits = circuit.width := by
    rw [rotateInto] at done
    split at done
    · cases done
    next sized => exact not_not.1 sized
  have size : Stabilizer.checkSize circuit.width = .ok () := by
    cases checked : Stabilizer.checkSize circuit.width with
    | ok => rfl
    | error fault =>
        rw [rotateInto, if_neg (not_not.2 same), Stabilizer.ofCircuit, checked] at done
        cases done
  rw [rotate_into_eq size same] at done
  refine ⟨same, size, ?_⟩
  cases found : wrongSigns target 0 circuit.prepared.paulis with
  | error fault =>
      rw [found] at done
      cases done
  | ok wrong =>
      rw [found] at done
      exact ⟨wrong, rfl, (Except.ok.inj done).symm⟩

theorem rotate_into_ok {circuit rotated : Circuit} {target : Stabilizer}
    (wellFormed : circuit.WellFormed) (done : circuit.rotateInto target = .ok rotated) :
    target.qubits = circuit.width ∧ Stabilizer.checkSize circuit.width = .ok () ∧
      (∃ wrong, rotated = ⟨circuit.width, flips wrong ++ circuit.instructions⟩) ∧
      rotated.WellFormed ∧
      ∀ generator ∈ rotated.prepared.generators,
        target.signInGroup generator.x generator.z = some generator.negative := by
  obtain ⟨same, size, wrong, found, rfl⟩ := exists_wrong_signs_of_rotate_into done
  obtain ⟨ascending, range, signs⟩ := wrong_signs_ok found
  have distinct : wrong.Nodup := ascending.imp Nat.ne_of_lt
  have formed : (Circuit.mk circuit.width (flips wrong ++ circuit.instructions)).WellFormed :=
    well_formed_flips wellFormed fun qubit member => by
      simpa [length_paulis_prepared] using (range qubit member).2
  refine ⟨same, size, ⟨wrong, rfl⟩, formed, ?_⟩
  rw [generators_prepared formed]
  intro generator member
  obtain ⟨qubit, inside, rfl⟩ := List.mem_map.1 member
  have below : qubit < circuit.prepared.paulis.length := by
    rw [length_paulis_prepared]
    exact List.mem_range.1 inside
  obtain ⟨wanted, sign, membership⟩ := signs qubit below
  rw [Nat.zero_add] at membership
  rw [paulis_prepared wellFormed below] at sign membership
  rw [Generator.toPauli, Pauli.sign_of_masks] at membership
  rw [follow_rotated distinct]
  change target.signInGroup _ _ = some (_ != decide (qubit ∈ wrong))
  refine sign.trans ?_
  congr 1
  by_cases flipped : qubit ∈ wrong
  · have differ := membership.1 flipped
    rw [decide_eq_true flipped]
    revert differ
    generalize (Generator.follow circuit.instructions ⟨0, single qubit, false⟩).negative = own
    cases own <;> cases wanted <;> simp
  · have agrees := not_not.1 (mt membership.2 flipped)
    rw [decide_eq_false flipped, Bool.bne_false]
    exact (Option.some.inj agrees).symm

/-- Rotation into a valid stabilizer succeeds if the group of the target has
every prepared generator up to sign. -/
theorem exists_rotate_into {circuit : Circuit} {target : Stabilizer}
    (size : Stabilizer.checkSize circuit.width = .ok ()) (same : target.qubits = circuit.width)
    (valid : target.Valid)
    (contained : ∀ generator ∈ circuit.prepared.generators,
      target.Contains generator.x generator.z) :
    ∃ rotated, circuit.rotateInto target = .ok rotated := by
  have signed : ∀ pauli ∈ circuit.prepared.paulis, ∃ wanted,
      target.signOf pauli = some wanted := by
    intro pauli member
    obtain ⟨generator, generatorMember, rfl⟩ := List.mem_map.1 member
    exact valid.exists_sign (contained generator generatorMember)
  obtain ⟨wrong, found⟩ := exists_wrong_signs 0 signed
  rw [rotate_into_eq size same, found]
  exact ⟨_, rfl⟩

theorem rotate_into_equivalent {circuit rotated : Circuit} {target : Stabilizer}
    (wellFormed : circuit.WellFormed) (valid : target.Valid)
    (done : circuit.rotateInto target = .ok rotated) :
    ∃ prepared, Stabilizer.ofCircuit rotated = .ok prepared ∧
      prepared.equivalent target = true ∧ target.equivalent prepared = true := by
  obtain ⟨same, size, ⟨wrong, rfl⟩, formed, signs⟩ := rotate_into_ok wellFormed done
  refine ⟨_, of_circuit_eq size, (valid_prepared formed).equivalent_of_signs valid ?_ signs⟩
  rw [qubits_prepared, same]

end StabilizerPrep.Circuit
