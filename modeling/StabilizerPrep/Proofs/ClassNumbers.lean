import StabilizerPrep.Entanglement.Classification
import StabilizerPrep.Proofs.Orbits
import StabilizerPrep.Proofs.Survey

/-!
# Class numbers

Every root is classified under its own number, with the graph of the root as
the representative and with the structure to which the number belongs. Since
local invariants do not change within a class, the same holds for every valid
stabilizer of the class. So classification is total on valid stabilizers, and
its number tells the classes apart.
-/

namespace StabilizerPrep.Board

set_option autoImplicit false

def isOf (kind : Structure) (size number : Nat) : Bool :=
  Nat.beq kind.qubits size &&
    (Nat.ble kind.firstId number && Nat.blt number (Nat.add kind.firstId kind.classCount))

theorem is_of_iff {kind : Structure} {size number : Nat} :
    isOf kind size number = true ↔
      kind.qubits = size ∧ kind.firstId ≤ number ∧ number < kind.firstId + kind.classCount := by
  have below : Nat.blt number (Nat.add kind.firstId kind.classCount) = true ↔
      number < kind.firstId + kind.classCount :=
    ⟨Nat.le_of_ble_eq_true, Nat.ble_eq_true_of_le⟩
  rw [isOf, Bool.and_eq_true, Bool.and_eq_true, Nat.beq_eq, Nat.ble_eq, below]

def isRecognized (size number : Nat) : Bool :=
  match (survey size (root size number)).classify with
  | some (.ok found) =>
      Nat.beq found.id number && decide (found.graph = graph size (root size number)) &&
        isOf found.kind size number
  | _ => false

theorem is_recognized_of_lt {size number : Nat} (large : 2 ≤ size) (small : size ≤ 6)
    (inside : number < classes size) : isRecognized size number = true := by
  have evaluated : (List.range' 2 5).all (fun size =>
      (List.range (classes size)).all (isRecognized size)) = true := by
    decide +kernel
  have each := List.all_eq_true.1 evaluated size (List.mem_range'_1.2 ⟨large, by omega⟩)
  exact List.all_eq_true.1 each number (List.mem_range.2 inside)

/-- A root is classified under its number, with its graph and with the structure
of the number. -/
theorem classify_root {size number : Nat} (large : 2 ≤ size) (small : size ≤ 6)
    (inside : number < classes size) (simple : (graph size (root size number)).Simple) :
    ∃ found, (Invariants.ofStabilizer (.ofGraph (graph size (root size number)))).classify =
        some (.ok found) ∧
      found.id = number ∧ found.graph = graph size (root size number) ∧
      isOf found.kind size number = true := by
  have recognized := is_recognized_of_lt large small inside
  rw [isRecognized, survey_eq simple small] at recognized
  split at recognized
  next found classified =>
      rw [Bool.and_eq_true, Bool.and_eq_true, decide_eq_true_eq] at recognized
      obtain ⟨⟨numbered, drawn⟩, kind⟩ := recognized
      exact ⟨found, classified, Nat.eq_of_beq_eq_true numbered, drawn, kind⟩
  next => exact absurd recognized (by decide)

theorem count_eq_classes {size : Nat} (large : 2 ≤ size) (small : size ≤ 6) :
    LocalClass.count size = .ok (classes size) := by
  have evaluated : ∀ fewer < 5, LocalClass.count (fewer + 2) = .ok (classes (fewer + 2)) := by
    decide +kernel
  obtain ⟨fewer, rfl⟩ := Nat.exists_eq_add_of_le' large
  exact evaluated fewer (by omega)

end StabilizerPrep.Board

namespace StabilizerPrep.Stabilizer

set_option autoImplicit false

variable {stabilizer : Stabilizer}

theorem of_stabilizer?_eq (small : stabilizer.qubits ≤ 6) :
    Invariants.ofStabilizer? stabilizer = some (.ofStabilizer stabilizer) := by
  have listed : stabilizer.expand? = some stabilizer.elements :=
    expand?_eq_some_iff.2 ⟨by omega, rfl⟩
  rw [Invariants.ofStabilizer?, listed]
  refine if_pos (List.all_eq_true.2 ?_)
  intro element member
  have counted : element.identityMask ∈ stabilizer.elements.map Pauli.identityMask :=
    List.mem_map.2 ⟨element, member, rfl⟩
  rw [identity_masks_elements] at counted
  obtain ⟨selection, _, same⟩ := List.mem_map.1 counted
  rw [← same, decide_eq_true_eq]
  exact Nat.lt_of_lt_of_le (identity_of_lt stabilizer selection)
    (Nat.pow_le_pow_right (by decide) small)

theorem Valid.classify?_eq (valid : stabilizer.Valid) (large : 2 ≤ stabilizer.qubits)
    (small : stabilizer.qubits ≤ 6) :
    classify? stabilizer = (Invariants.ofStabilizer stabilizer).classify := by
  have supported : Device.checkQubits stabilizer.qubits = .ok () := if_pos ⟨large, small⟩
  rw [classify?, supported, stabilizer.validate_eq_ok_iff.2 valid, of_stabilizer?_eq small]
  rfl

/-- A valid stabilizer is classified under the number of the root to which it
is locally equivalent. -/
theorem Valid.classify_of_root (valid : stabilizer.Valid) (large : 2 ≤ stabilizer.qubits)
    (small : stabilizer.qubits ≤ 6) {number : Nat}
    (inside : number < Board.classes stabilizer.qubits)
    (simple : (Board.graph stabilizer.qubits (Board.root stabilizer.qubits number)).Simple)
    (equivalent : LocallyEquivalent stabilizer
      (ofGraph (Board.graph stabilizer.qubits (Board.root stabilizer.qubits number)))) :
    ∃ found, classify? stabilizer = some (.ok found) ∧ found.id = number ∧
      found.graph = Board.graph stabilizer.qubits (Board.root stabilizer.qubits number) ∧
      Board.isOf found.kind stabilizer.qubits number = true := by
  obtain ⟨layer, carries⟩ := equivalent
  obtain ⟨found, classified, numbered, recognized⟩ :=
    Board.classify_root large small inside simple
  refine ⟨found, ?_, numbered, recognized⟩
  rw [valid.classify?_eq large small, carries.invariants_eq valid]
  exact classified

/-- Classification is total on valid stabilizers, and the graph of the class is
that of a locally equivalent graph state. -/
theorem Valid.exists_class (valid : stabilizer.Valid) (large : 2 ≤ stabilizer.qubits)
    (small : stabilizer.qubits ≤ 6) :
    ∃ found, classify? stabilizer = some (.ok found) ∧
      found.id < Board.classes stabilizer.qubits ∧
      found.graph = Board.graph stabilizer.qubits (Board.root stabilizer.qubits found.id) ∧
      found.graph.Simple ∧ LocallyEquivalent stabilizer (ofGraph found.graph) := by
  obtain ⟨number, inside, simple, equivalent⟩ := valid.locally_equivalent_root small
  obtain ⟨found, classified, rfl, drawn, -⟩ := valid.classify_of_root large small inside simple
    equivalent
  refine ⟨found, classified, inside, drawn, ?_, ?_⟩
  · rwa [drawn]
  · rwa [drawn]

/-- Two valid stabilizers have the same class number exactly when they are
locally equivalent. -/
theorem Valid.id_eq_iff {other : Stabilizer} (valid : stabilizer.Valid)
    (otherValid : other.Valid) (large : 2 ≤ stabilizer.qubits) (small : stabilizer.qubits ≤ 6)
    (same : stabilizer.qubits = other.qubits) {found otherFound : LocalClass}
    (classified : classify? stabilizer = some (.ok found))
    (otherClassified : classify? other = some (.ok otherFound)) :
    found.id = otherFound.id ↔ LocallyEquivalent stabilizer other := by
  obtain ⟨expected, classifies, inside, drawn, simple, equivalent⟩ :=
    valid.exists_class large small
  obtain ⟨otherExpected, otherClassifies, otherInside, otherDrawn, otherSimple,
    otherEquivalent⟩ := otherValid.exists_class (by omega) (by omega)
  obtain rfl : found = expected :=
    Except.ok.inj (Option.some.inj (classified.symm.trans classifies))
  obtain rfl : otherFound = otherExpected :=
    Except.ok.inj (Option.some.inj (otherClassified.symm.trans otherClassifies))
  constructor
  · intro equal
    rw [drawn, equal, same, ← otherDrawn] at equivalent
    exact equivalent.trans otherEquivalent.symm
  · rintro ⟨layer, carries⟩
    have agrees : classify? stabilizer = classify? other := by
      rw [valid.classify?_eq large small, otherValid.classify?_eq (by omega) (by omega),
        carries.invariants_eq valid]
    rw [classified, otherClassified] at agrees
    rw [Except.ok.inj (Option.some.inj agrees)]

end StabilizerPrep.Stabilizer
