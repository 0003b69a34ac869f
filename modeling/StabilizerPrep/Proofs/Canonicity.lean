import StabilizerPrep.Proofs.Preparation

/-!
# Canonicity

Synthesis depends on a state and not on the generators that describe it. The
layer solver picks a vector from a basis of a kernel, and that basis is read off
the kernel itself: each basis vector is the one whose last member is its own
column and whose other members are pivots. Classification and signs are read
off the group.
-/

namespace StabilizerPrep.Matrix

set_option autoImplicit false

open Mask

variable (matrix : Matrix)

theorem gathered_lt_of_free {column : Nat} (free : column ∉ matrix.eliminate.pivots) :
    gathered column matrix.eliminate.leads < 2 ^ column := by
  apply Nat.lt_pow_two_of_testBit
  intro position beyond
  rw [← dot_single_left]
  by_cases pivotal : position ∈ matrix.eliminate.pivots
  · have later : column < position := by
      refine Nat.lt_of_le_of_ne beyond fun same => free ?_
      rwa [same]
    rw [← leads_pivots] at pivotal
    obtain ⟨lead, member, rfl⟩ := List.mem_map.1 pivotal
    rw [dot_gathered_own member (by rw [leads_pivots]; exact matrix.pivots_nodup) (by simp)]
    · exact matrix.eliminate_echelonized.before lead member column later
    · intro other _ apart
      simp [Ne.symm apart]
  · rw [dot_single_left]
    exact matrix.test_bit_gathered_of_not_pivot pivotal column

/-- A column has no pivot exactly when it is the last member of a vector of the
kernel. -/
theorem not_mem_pivots_iff {column : Nat} :
    column ∉ matrix.eliminate.pivots ↔
      ∃ vector < 2 ^ (column + 1), vector.testBit column = true ∧
        Kills matrix.rows vector := by
  constructor
  · intro free
    have bound := matrix.gathered_lt_of_free free
    refine ⟨single column ^^^ gathered column matrix.eliminate.leads, ?_, ?_,
      matrix.kills_single_xor_gathered column⟩
    · exact Nat.xor_lt_two_pow (single_lt (Nat.lt_succ_self column))
        (Nat.lt_trans bound (Nat.pow_lt_pow_right (by decide) (Nat.lt_succ_self column)))
    · rw [Nat.testBit_xor, test_bit_beyond bound (Nat.le_refl column)]
      simp
  · rintro ⟨vector, bound, last, killed⟩ pivotal
    rw [← leads_pivots] at pivotal
    obtain ⟨lead, member, rfl⟩ := List.mem_map.1 pivotal
    have shape := matrix.eliminate_echelonized
    -- The leading row starts at the pivot and the vector ends there.
    have common : lead.1 &&& vector = single lead.2 := by
      apply Nat.eq_of_testBit_eq
      intro position
      rw [Nat.testBit_and, test_bit_single]
      rcases Nat.lt_trichotomy position lead.2 with before | rfl | after
      · rw [shape.before lead member position before, Bool.false_and,
          decide_eq_false (Nat.ne_of_gt before)]
      · rw [shape.leading lead member, last, decide_eq_true rfl, Bool.and_true]
      · rw [test_bit_beyond bound after, Bool.and_false, decide_eq_false (Nat.ne_of_lt after)]
    have even := (kills_iff_leads matrix vector).1 killed lead member
    rw [dot, common, parity_single] at even
    cases even

/-- The basis of a kernel does not depend on the equations that give it. -/
theorem null_space_congr {first second : Matrix} (columns : first.columns = second.columns)
    (same : ∀ vector, Kills first.rows vector ↔ Kills second.rows vector) :
    first.nullSpace = second.nullSpace := by
  have pivotal : ∀ column, column ∈ first.eliminate.pivots ↔ column ∈ second.eliminate.pivots := by
    intro column
    rw [← not_iff_not, not_mem_pivots_iff, not_mem_pivots_iff]
    simp only [same]
  have vectors : ∀ column < first.columns, column ∉ first.eliminate.pivots →
      single column ^^^ gathered column first.eliminate.leads =
        single column ^^^ gathered column second.eliminate.leads := by
    intro column inside _
    have difference := xor_xor_xor_cancel (single column)
      (gathered column first.eliminate.leads) (gathered column second.eliminate.leads)
    rw [← Nat.xor_eq_zero_iff]
    apply first.eq_zero_of_kills_of_pivots
    · rw [difference]
      exact Nat.xor_lt_two_pow (first.gathered_lt column)
        (by rw [columns]; exact second.gathered_lt column)
    · intro row member
      rw [dot_xor_right, first.kills_single_xor_gathered column row member,
        (same _).2 (second.kills_single_xor_gathered column) row member]
      rfl
    · intro other _ otherFree
      rw [difference, Nat.testBit_xor, first.test_bit_gathered_of_not_pivot otherFree,
        second.test_bit_gathered_of_not_pivot (mt (pivotal other).2 otherFree)]
      rfl
  have free : ∀ column, (!first.eliminate.pivots.contains column) =
      !second.eliminate.pivots.contains column := by
    intro column
    rw [Bool.eq_iff_iff]
    simp [pivotal]
  rw [null_space_eq, null_space_eq, ← columns]
  simp only [← free]
  apply List.map_congr_left
  intro column member
  obtain ⟨inside, missing⟩ := List.mem_filter.1 member
  exact vectors column (List.mem_range.1 inside) (by simpa using missing)
end StabilizerPrep.Matrix

namespace StabilizerPrep.Layer

set_option autoImplicit false

open Mask StabilizerPrep.Matrix

def charge (graph : Graph) (qubits vector a x z : Nat) : Bool :=
  odd ((List.range qubits).map fun i =>
    odd (candidates.zipIdx.map fun (candidate, k) =>
      ((graph.adjacent a i && (candidate.act (x.testBit i) (z.testBit i)).1) !=
        (a == i && (candidate.act (x.testBit i) (z.testBit i)).2)) &&
          vector.testBit (4 * i + k)))

variable {graph : Graph} {qubits vector a : Nat}

theorem charge_zero : charge graph qubits vector a 0 0 = false := by
  apply odd_map_false
  intro i _
  apply odd_map_false
  intro numbered _
  simp [LocalClifford.act_false]

theorem charge_xor (x z otherX otherZ : Nat) :
    charge graph qubits vector a (x ^^^ otherX) (z ^^^ otherZ) =
      (charge graph qubits vector a x z != charge graph qubits vector a otherX otherZ) := by
  rw [charge, charge, charge, ← odd_map_bne]
  congr 1
  apply List.map_congr_left
  intro i _
  rw [← odd_map_bne]
  congr 1
  apply List.map_congr_left
  rintro ⟨candidate, k⟩ _
  simp only [Nat.testBit_xor, ← Bool.bne_eq_xor, LocalClifford.act_xor]
  generalize candidate.act (x.testBit i) (z.testBit i) = own
  generalize candidate.act (otherX.testBit i) (otherZ.testBit i) = other
  obtain ⟨ownX, ownZ⟩ := own
  obtain ⟨otherX, otherZ⟩ := other
  cases vector.testBit (4 * i + k) <;> cases graph.adjacent a i <;> cases a == i <;>
    cases ownX <;> cases ownZ <;> cases otherX <;> cases otherZ <;> rfl

variable {stabilizer : Stabilizer}

theorem dot_condition_eq_charge (graph : Graph) (vector a : Nat) {index : Nat}
    (inside : index < stabilizer.generators.length) :
    dot (condition stabilizer.xPart stabilizer.zPart graph a index) vector =
      charge graph stabilizer.qubits vector a stabilizer.generators[index].x
        stabilizer.generators[index].z := by
  have blocks := dot_blocks (term stabilizer.xPart stabilizer.zPart graph a index) vector 0
    stabilizer.xPart.height
  rw [Nat.mul_zero, Nat.shiftRight_zero, ← List.range_eq_range', ← condition_eq] at blocks
  rw [blocks, charge, Stabilizer.height_x_part]
  congr 1
  apply List.map_congr_left
  intro i member
  have below := List.mem_range.1 member
  simp only [term, Stabilizer.entry_x_part _ below, Stabilizer.entry_z_part _ below,
    Stabilizer.getD_xs inside, Stabilizer.getD_zs inside]
  rfl

/-- Coefficients solve the conditions exactly when no element of the group is
left over. -/
theorem kills_conditions_iff_charge (stabilizer : Stabilizer) (graph : Graph) (vector : Nat) :
    Kills (conditions stabilizer.xPart stabilizer.zPart graph).rows vector ↔
      ∀ a < stabilizer.qubits, ∀ x z, stabilizer.Contains x z →
        charge graph stabilizer.qubits vector a x z = false := by
  have height := stabilizer.height_x_part
  have columns : stabilizer.xPart.columns = stabilizer.generators.length := rfl
  rw [Kills, rows_conditions, height, columns]
  constructor
  · intro killed a inside x z contained
    refine contained.induction (fun x z => charge graph stabilizer.qubits vector a x z = false)
      charge_zero ?_ ?_
    · intro x z otherX otherZ own other
      rw [charge_xor, own, other]
      rfl
    · intro generator member
      obtain ⟨index, below, rfl⟩ := List.mem_iff_getElem.1 member
      rw [← dot_condition_eq_charge graph vector a below]
      exact killed _ (List.mem_flatMap.2
        ⟨a, List.mem_range.2 inside, List.mem_map.2 ⟨index, List.mem_range.2 below, rfl⟩⟩)
  · intro neutral row member
    obtain ⟨a, aMember, inner⟩ := List.mem_flatMap.1 member
    obtain ⟨index, indexMember, rfl⟩ := List.mem_map.1 inner
    have below := List.mem_range.1 indexMember
    rw [dot_condition_eq_charge graph vector a below]
    exact neutral a (List.mem_range.1 aMember) _ _
      (Stabilizer.contains_generator (List.getElem_mem below))

/-- The layer that is found depends on the group only. -/
theorem find_congr {first second : Stabilizer} (same : first.qubits = second.qubits)
    (groups : ∀ x z, first.Contains x z ↔ second.Contains x z) (graph : Graph) :
    find first.xPart first.zPart graph = find second.xPart second.zPart graph := by
  have kernels : (conditions first.xPart first.zPart graph).nullSpace =
      (conditions second.xPart second.zPart graph).nullSpace := by
    apply null_space_congr
    · change 4 * first.xPart.height = 4 * second.xPart.height
      rw [first.height_x_part, second.height_x_part, same]
    · intro vector
      rw [kills_conditions_iff_charge, kills_conditions_iff_charge, same]
      simp only [groups]
  have xColumns : first.xPart.columns = second.xPart.columns := same
  have zColumns : first.zPart.columns = second.zPart.columns := same
  simp only [find, kernels, first.height_x_part, first.height_z_part, second.height_x_part,
    second.height_z_part, same, xColumns, zColumns]

end StabilizerPrep.Layer

namespace StabilizerPrep.Stabilizer

set_option autoImplicit false

variable {first second : Stabilizer}

theorem LocallyEquivalent.of_contains (same : first.qubits = second.qubits)
    (groups : ∀ x z, first.Contains x z ↔ second.Contains x z) :
    LocallyEquivalent first second := by
  obtain ⟨layer, source, target, contains⟩ := LocallyEquivalent.refl first
  exact ⟨layer, source, target.trans same, fun x z xBound zBound =>
    (contains x z xBound zBound).trans (groups _ _)⟩

theorem Valid.classify_congr (valid : first.Valid) (secondValid : second.Valid)
    (same : first.qubits = second.qubits)
    (groups : ∀ x z, first.Contains x z ↔ second.Contains x z) (large : 2 ≤ first.qubits)
    (small : first.qubits ≤ 6) : classify first = classify second := by
  obtain ⟨layer, carries⟩ := LocallyEquivalent.of_contains same groups
  rw [classify, classify, valid.classify?_eq large small,
    secondValid.classify?_eq (by rwa [← same]) (by rwa [← same]), carries.invariants_eq valid, same]

end StabilizerPrep.Stabilizer

namespace StabilizerPrep.Circuit

set_option autoImplicit false

variable {first second : Stabilizer}

theorem wrong_signs_congr (signs : ∀ x z, first.signInGroup x z = second.signInGroup x z)
    (index : Nat) (paulis : List Pauli) :
    wrongSigns first index paulis = wrongSigns second index paulis := by
  induction paulis generalizing index with
  | nil => rfl
  | cons pauli others ih =>
      rw [wrongSigns, wrongSigns, Stabilizer.signOf, Stabilizer.signOf, signs, ih]

theorem rotate_into_congr (same : first.qubits = second.qubits)
    (signs : ∀ x z, first.signInGroup x z = second.signInGroup x z) (circuit : Circuit) :
    circuit.rotateInto first = circuit.rotateInto second := by
  simp only [rotateInto, same, wrong_signs_congr signs]

end StabilizerPrep.Circuit

namespace StabilizerPrep.Store

set_option autoImplicit false

theorem prepare_congr {first second : Stabilizer} (same : first.qubits = second.qubits)
    (groups : ∀ x z, first.Contains x z ↔ second.Contains x z)
    (signs : ∀ x z, first.signInGroup x z = second.signInGroup x z) (template : Template)
    (localClass : LocalClass) :
    template.prepare localClass first = template.prepare localClass second := by
  simp only [Template.prepare, Layer.find_congr same groups, Circuit.rotate_into_congr same signs]

/-- The outcome of synthesis, whether a success or a failure, is the same for
equivalent valid stabilizers. -/
theorem synthesis_of_congr {first second : Stabilizer} (valid : first.Valid)
    (secondValid : second.Valid) (equivalent : first.equivalent second = true) (source : Source)
    (device : Device) : synthesisOf source first device = synthesisOf source second device := by
  obtain ⟨alike, -⟩ := Stabilizer.equivalent_iff.1 equivalent
  obtain ⟨same, groups⟩ := (valid.same_up_to_signs_iff_contains secondValid).1 alike
  have signs := valid.sign_in_group_congr secondValid equivalent
  rw [synthesisOf, synthesisOf, ← same]
  refine bind_congr_of_ok fun _ supported => ?_
  obtain ⟨large, small⟩ := range_of_check_supported supported
  rw [valid.classify_congr secondValid same groups large small]
  simp only [prepare_congr same groups signs]

/-- Synthesis depends on the state and not on its description: over any source,
equivalent valid stabilizers have the same outcome, whatever has been asked for
before. So a compressed circuit is compressed to itself. -/
theorem synthesis_canonical (source : Source) (requests later : List Request) (device : Device) :
    (∀ first second : Stabilizer, first.validate = .ok () → second.validate = .ok () →
      first.equivalent second = true →
      (perform (synthesize first device) (after source requests)).1 =
        (perform (synthesize second device) (after source later)).1) ∧
    ∀ circuit compressed,
      (perform (compress circuit device) (after source requests)).1 = .ok compressed →
      (perform (compress compressed device) (after source later)).1 = .ok compressed := by
  have faithful := faithful_after source requests
  have laterFaithful := faithful_after source later
  constructor
  · intro first second validated secondValidated equivalent
    rw [fst_perform_synthesize faithful, fst_perform_synthesize laterFaithful]
    exact synthesis_of_congr (first.validate_eq_ok_iff.1 validated)
      (second.validate_eq_ok_iff.1 secondValidated) equivalent source device
  · intro circuit compressed done
    rw [fst_perform_compress faithful] at done
    obtain ⟨original, -, given⟩ := exists_of_bind_ok done
    cases outcome : synthesisOf source original device with
    | error fault =>
        rw [outcome] at given
        cases given
    | ok synthesis =>
        rw [outcome] at given
        obtain rfl : synthesis.circuit = compressed := Except.ok.inj given
        have grounded : Grounded original synthesis := by
          refine (keeps_synthesize original device _ faithful).2 synthesis ?_
          rw [fst_perform_synthesize faithful, outcome]
        obtain ⟨validated, prepared, simulated, forth, -⟩ := grounded.sound
        have same : synthesisOf source prepared device = .ok synthesis := by
          rw [← outcome]
          refine synthesis_of_congr ?_ (original.validate_eq_ok_iff.1 validated) forth source device
          rw [Circuit.eq_prepared simulated]
          exact Circuit.valid_prepared grounded.well_formed
        rw [fst_perform_compress laterFaithful, simulated]
        change (synthesisOf source prepared device).map Synthesis.circuit = _
        rw [same]
        rfl

/-- Two bases of one group. In the second, the first generator is the product
of both. -/
theorem synthesis_canonical_pair :
    let first := Stabilizer.ofGenerators [⟨0b11, 0, true⟩, ⟨0, 0b11, false⟩]
    let second := Stabilizer.ofGenerators [⟨0b11, 0b11, false⟩, ⟨0, 0b11, false⟩]
    let source := Source.memory [(tableName 2 .all, "0:0:0:h0 h1\n1:1:1:h0 h1 cz0,1")]
    first.validate = .ok () ∧ second.validate = .ok () ∧ first.equivalent second = true ∧
      first ≠ second ∧
      (perform (synthesize first .all) (after source [])).1 =
        (perform (synthesize second .all) (after source [.statistics 2 .all])).1 :=
  ⟨rfl, rfl, rfl, by decide,
    (synthesis_canonical _ [] [.statistics 2 .all] .all).1 _ _ rfl rfl rfl⟩

end StabilizerPrep.Store
