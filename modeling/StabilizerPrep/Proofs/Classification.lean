import StabilizerPrep.Proofs.ClassNumbers
import StabilizerPrep.Proofs.LayerSearch
import StabilizerPrep.Proofs.LocalEquivalence

/-!
# Classification

The class number of a valid stabilizer is a complete invariant of local
equivalence. Classification has an outcome for every stabilizer, fails for two
reasons only, and otherwise gives a graph onto which the layer solver finds a
layer.
-/

namespace StabilizerPrep.Stabilizer

set_option autoImplicit false

variable {stabilizer : Stabilizer}

theorem classify_of_some {outcome : Except Fault LocalClass}
    (classified : classify? stabilizer = some outcome) : classify stabilizer = outcome := by
  rw [classify, classified]
  rfl

theorem Valid.locally_equivalent_iff {other : Stabilizer} (valid : stabilizer.Valid)
    (otherValid : other.Valid) (large : 2 ≤ stabilizer.qubits) (small : stabilizer.qubits ≤ 6) :
    LocallyEquivalent stabilizer other ↔
      ∃ layer : Layer, layer.qubits = stabilizer.qubits ∧
        ∃ image, ofMatrices (layer.transform stabilizer.xPart stabilizer.zPart).1.digits
            (layer.transform stabilizer.xPart stabilizer.zPart).2.digits none = .ok image ∧
          image.sameUpToSigns other = true := by
  have representable : stabilizer.qubits ≤ Pauli.maxQubits := Nat.le_trans small (by decide)
  constructor
  · rintro ⟨layer, carries⟩
    have qubits := carries.source
    refine ⟨layer, qubits, stabilizer.image layer,
      of_matrices_transform qubits (by omega) representable, ?_⟩
    exact (valid.image_same_up_to_signs_iff otherValid qubits).2 carries
  · rintro ⟨layer, qubits, image, taken, same⟩
    rw [of_matrices_transform qubits (by omega) representable] at taken
    obtain rfl := Except.ok.inj taken
    exact ⟨layer, (valid.image_same_up_to_signs_iff otherValid qubits).1 same⟩

/-- Two valid stabilizers on two to six qubits have the same class number
exactly when a layer turns the one into the other up to signs. -/
theorem id_eq_iff_exists_layer {first second : Stabilizer} (large : 2 ≤ first.qubits)
    (small : first.qubits ≤ 6) (same : second.qubits = first.qubits)
    (valid : first.validate = .ok ()) (secondValid : second.validate = .ok ()) :
    ∃ found secondFound, classify first = .ok found ∧ classify second = .ok secondFound ∧
      (found.id = secondFound.id ↔
        ∃ layer : Layer, layer.qubits = first.qubits ∧
          ∃ image, ofMatrices (layer.transform first.xPart first.zPart).1.digits
              (layer.transform first.xPart first.zPart).2.digits none = .ok image ∧
            image.sameUpToSigns second = true) := by
  have firstValid := first.validate_eq_ok_iff.1 valid
  have otherValid := second.validate_eq_ok_iff.1 secondValid
  obtain ⟨found, classified, -⟩ := firstValid.exists_class large small
  obtain ⟨secondFound, secondClassified, -⟩ := otherValid.exists_class (by omega) (by omega)
  refine ⟨found, secondFound, classify_of_some classified, classify_of_some secondClassified, ?_⟩
  rw [firstValid.id_eq_iff otherValid large small same.symm classified secondClassified]
  exact firstValid.locally_equivalent_iff otherValid large small

theorem id_eq_iff_exists_layer_pair :
    ∃ found secondFound,
      classify (ofGraph ⟨[0b10, 0b01]⟩) = .ok found ∧
      classify (ofGenerators [⟨0b11, 0, false⟩, ⟨0, 0b11, true⟩]) = .ok secondFound ∧
      (found.id = secondFound.id ↔
        ∃ layer : Layer, layer.qubits = 2 ∧
          ∃ image, ofMatrices
              (layer.transform (ofGraph ⟨[0b10, 0b01]⟩).xPart
                (ofGraph ⟨[0b10, 0b01]⟩).zPart).1.digits
              (layer.transform (ofGraph ⟨[0b10, 0b01]⟩).xPart
                (ofGraph ⟨[0b10, 0b01]⟩).zPart).2.digits none = .ok image ∧
            image.sameUpToSigns (ofGenerators [⟨0b11, 0, false⟩, ⟨0, 0b11, true⟩]) = true) :=
  @id_eq_iff_exists_layer (ofGraph ⟨[0b10, 0b01]⟩)
    (ofGenerators [⟨0b11, 0, false⟩, ⟨0, 0b11, true⟩])
    (by decide) (by decide) (by decide) (by rfl) (by rfl)

theorem classify?_unsupported (outside : ¬(2 ≤ stabilizer.qubits ∧ stabilizer.qubits ≤ 6)) :
    classify? stabilizer = some (.error (.unsupportedQubitCount stabilizer.qubits)) := by
  have unsupported : Device.checkQubits stabilizer.qubits =
      .error (.unsupportedQubitCount stabilizer.qubits) := if_neg outside
  rw [classify?, unsupported]
  rfl

theorem classify?_invalid (large : 2 ≤ stabilizer.qubits) (small : stabilizer.qubits ≤ 6)
    {fault : Fault} (invalid : stabilizer.validate = .error fault) :
    classify? stabilizer = some (.error fault) := by
  have supported : Device.checkQubits stabilizer.qubits = .ok () := if_pos ⟨large, small⟩
  rw [classify?, supported, invalid]
  rfl

theorem validate_error {fault : Fault} (invalid : stabilizer.validate = .error fault) :
    ∃ reason, fault = .invalidStabilizer reason := by
  rw [validate] at invalid
  split at invalid
  · exact ⟨_, (Except.error.inj invalid).symm⟩
  · split at invalid
    · exact absurd invalid (by simp)
    · exact ⟨_, (Except.error.inj invalid).symm⟩

/-- The graph of the class of a valid stabilizer is one onto which the layer
solver finds a layer. -/
theorem Valid.exists_layer (valid : stabilizer.Valid) (large : 2 ≤ stabilizer.qubits)
    (small : stabilizer.qubits ≤ 6) :
    ∃ found count layer, classify? stabilizer = some (.ok found) ∧
      LocalClass.count stabilizer.qubits = .ok count ∧ found.id < count ∧
      Layer.find stabilizer.xPart stabilizer.zPart found.graph = some layer ∧
      layer.reaches stabilizer.xPart stabilizer.zPart found.graph = true := by
  obtain ⟨found, classified, inside, -, simple, ⟨carrier, carries⟩⟩ :=
    valid.exists_class large small
  have reaches := (valid.reaches_iff_carries simple).2 carries
  have searched : stabilizer.xPart.height ≤ 8 := by
    rw [height_x_part]
    omega
  obtain ⟨layer, solved, checked⟩ := Layer.exists_find searched reaches
  exact ⟨found, _, layer, classified, Board.count_eq_classes large small, inside, solved, checked⟩

/-- Classification always has an outcome: it never reads outside a list or a
table. It refuses sizes other than two to six, and then stabilizers that are
not valid; the class of any other stabilizer has a number in range and a graph
onto which the layer solver finds a layer. -/
theorem classify_total (stabilizer : Stabilizer) :
    classify? stabilizer = some (classify stabilizer) ∧
      ((∃ count, classify stabilizer = .error (.unsupportedQubitCount count)) ↔
        ¬(2 ≤ stabilizer.qubits ∧ stabilizer.qubits ≤ 6)) ∧
      (2 ≤ stabilizer.qubits ∧ stabilizer.qubits ≤ 6 →
        ((∃ reason, classify stabilizer = .error (.invalidStabilizer reason)) ↔
          stabilizer.validate ≠ .ok ()) ∧
        (stabilizer.validate = .ok () →
          ∃ found count layer, classify stabilizer = .ok found ∧
            LocalClass.count stabilizer.qubits = .ok count ∧ found.id < count ∧
            Layer.find stabilizer.xPart stabilizer.zPart found.graph = some layer ∧
            layer.reaches stabilizer.xPart stabilizer.zPart found.graph = true)) := by
  by_cases supported : 2 ≤ stabilizer.qubits ∧ stabilizer.qubits ≤ 6
  swap
  · have refused := classify?_unsupported supported
    have outcome := classify_of_some refused
    refine ⟨by rw [outcome, refused], ?_, fun inside => absurd inside supported⟩
    exact ⟨fun _ => supported, fun _ => ⟨_, outcome⟩⟩
  obtain ⟨large, small⟩ := supported
  cases validated : stabilizer.validate with
  | error fault =>
      have refused := classify?_invalid large small validated
      have outcome := classify_of_some refused
      obtain ⟨reason, rfl⟩ := validate_error validated
      refine ⟨by rw [outcome, refused], ?_, fun _ => ⟨?_, ?_⟩⟩
      · simp [outcome, large, small]
      · exact ⟨fun _ => by simp, fun _ => ⟨reason, outcome⟩⟩
      · intro impossible
        exact absurd impossible (by simp)
  | ok =>
      obtain ⟨found, count, layer, classified, rest⟩ :=
        (stabilizer.validate_eq_ok_iff.1 validated).exists_layer large small
      have outcome := classify_of_some classified
      refine ⟨by rw [outcome, classified], ?_, fun _ => ⟨?_, ?_⟩⟩
      · simp [outcome, large, small]
      · simp [outcome]
      · exact fun _ => ⟨found, count, layer, outcome, rest⟩

end StabilizerPrep.Stabilizer
