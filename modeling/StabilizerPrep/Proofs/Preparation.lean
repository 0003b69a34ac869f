import StabilizerPrep.Proofs.Classification
import StabilizerPrep.Proofs.LayerCircuit
import StabilizerPrep.Proofs.Metrics
import StabilizerPrep.Proofs.Requests
import StabilizerPrep.Proofs.SignRotation

/-!
# Preparation

A template is followed by the inverse of a layer, and the signs are rotated
into place. Whatever the template says, the result prepares the stabilizer
whenever there is one: rotation only succeeds if all prepared generators are
in the group of the stabilizer.
-/

namespace StabilizerPrep.Template

set_option autoImplicit false

def unsigned (template : Template) (layer : Layer) : Circuit :=
  ⟨template.circuit.width, template.circuit.instructions ++ layer.circuit.inverse.instructions⟩

variable {template : Template} {localClass : LocalClass} {stabilizer : Stabilizer}

theorem well_formed_unsigned (wellFormed : template.circuit.WellFormed) {layer : Layer}
    (width : template.circuit.width = layer.qubits) : (template.unsigned layer).WellFormed := by
  refine Circuit.well_formed_append wellFormed ?_
  rw [width]
  exact Circuit.well_formed_inverse layer.well_formed_circuit

theorem prepare_of_absent {graph : Graph} (drawn : template.graph = .ok graph)
    (absent : Layer.find stabilizer.xPart stabilizer.zPart graph = none) :
    template.prepare localClass stabilizer = .error (.noLocalLayer template.graphId) := by
  simp only [prepare, drawn, bind, Except.bind, absent]

theorem prepare_of_find {graph : Graph} {layer : Layer} (drawn : template.graph = .ok graph)
    (found : Layer.find stabilizer.xPart stabilizer.zPart graph = some layer)
    (width : template.circuit.width = layer.qubits) :
    template.prepare localClass stabilizer =
      ((template.unsigned layer).rotateInto stabilizer).map
        (Synthesis.mk localClass template layer) := by
  have composed : template.circuit.compose layer.circuit.inverse = .ok (template.unsigned layer) :=
    if_pos width
  simp only [prepare, drawn, bind, Except.bind, found, composed, liftCircuit]
  cases (template.unsigned layer).rotateInto stabilizer <;> rfl

theorem prepare_ok {synthesis : Synthesis}
    (done : template.prepare localClass stabilizer = .ok synthesis) :
    ∃ graph layer circuit, template.graph = .ok graph ∧
      Layer.find stabilizer.xPart stabilizer.zPart graph = some layer ∧
      template.circuit.width = layer.qubits ∧
      (template.unsigned layer).rotateInto stabilizer = .ok circuit ∧
      synthesis = ⟨localClass, template, layer, circuit⟩ := by
  obtain ⟨graph, drawn, rest⟩ := exists_of_bind_ok done
  split at rest
  · cases rest
  next layer found =>
      obtain ⟨unsigned, composed, last⟩ := exists_of_bind_ok rest
      obtain ⟨circuit, rotated, built⟩ := exists_of_bind_ok last
      obtain rfl := Except.ok.inj built
      rw [Circuit.compose] at composed
      split at composed
      next width =>
          obtain rfl := Except.ok.inj composed
          exact ⟨graph, layer, circuit, drawn, found, width, rotated, rfl⟩
      next => cases composed

/-- A preparation of a valid stabilizer prepares it, whatever the template
says. -/
theorem prepare_sound (wellFormed : template.circuit.WellFormed) (valid : stabilizer.Valid)
    {synthesis : Synthesis} (done : template.prepare localClass stabilizer = .ok synthesis) :
    ∃ prepared, Stabilizer.ofCircuit synthesis.circuit = .ok prepared ∧
      prepared.equivalent stabilizer = true ∧ stabilizer.equivalent prepared = true := by
  obtain ⟨graph, layer, circuit, -, -, width, rotated, rfl⟩ := prepare_ok done
  exact Circuit.rotate_into_equivalent (well_formed_unsigned wellFormed width) valid rotated

/-- A preparation is well-formed, and neither the layer nor the rotation of the
signs adds instructions on two qubits. -/
theorem two_qubit_prepare (wellFormed : template.circuit.WellFormed) {synthesis : Synthesis}
    (done : template.prepare localClass stabilizer = .ok synthesis) :
    synthesis.circuit.WellFormed ∧ synthesis.circuit.twoQubit = template.circuit.twoQubit := by
  obtain ⟨graph, layer, circuit, -, -, width, rotated, rfl⟩ := prepare_ok done
  obtain ⟨-, -, ⟨wrong, rfl⟩, formed, -⟩ :=
    Circuit.rotate_into_ok (well_formed_unsigned wellFormed width) rotated
  refine ⟨formed, ?_⟩
  have front : (Circuit.flips wrong).filter Instruction.isTwoQubit = [] := by
    rw [List.filter_eq_nil_iff, Circuit.flips, List.forall_mem_map]
    exact fun _ _ impossible => by cases impossible
  have back : layer.circuit.inverse.instructions.filter Instruction.isTwoQubit = [] := by
    rw [List.filter_eq_nil_iff]
    intro instruction member
    obtain ⟨original, originalMember, rfl⟩ := List.mem_map.1 (List.mem_reverse.1 member)
    obtain ⟨qubit, -, gate, -, rfl⟩ := Layer.mem_instructions originalMember
    exact fun impossible => by cases impossible
  simp only [Circuit.twoQubit, unsigned, List.filter_append, front, back, List.nil_append,
    List.append_nil]

theorem contains_unsigned {graph : Graph} {layer : Layer}
    (wellFormed : template.circuit.WellFormed) (width : template.circuit.width = layer.qubits)
    (draws : ∀ x z, template.circuit.prepared.Contains x z ↔
      (Stabilizer.ofGraph graph).Contains x z)
    (carries : Stabilizer.Carries layer stabilizer (.ofGraph graph)) {x z : Nat}
    (contained : (template.unsigned layer).prepared.Contains x z) : stabilizer.Contains x z := by
  have formed := well_formed_unsigned wellFormed width
  have bounds := contained.bounded
  rw [Circuit.qubits_prepared, unsigned, width] at bounds
  obtain ⟨masks, earlier, moved⟩ := (Circuit.contains_prepared_append_iff formed).1 contained
  obtain ⟨sameX, sameZ⟩ := Prod.mk.inj (Layer.act_of_move_all_inverse moved bounds)
  rw [carries.contains x z bounds.1 bounds.2, sameX, sameZ]
  exact (draws _ _).1 earlier

/-- A template for a locally equivalent graph state prepares a valid
stabilizer. -/
theorem exists_prepare {graph : Graph} (large : 0 < stabilizer.qubits)
    (small : stabilizer.qubits ≤ 8) (valid : stabilizer.Valid)
    (wellFormed : template.circuit.WellFormed)
    (width : template.circuit.width = stabilizer.qubits) (drawn : template.graph = .ok graph)
    (simple : graph.Simple)
    (draws : ∀ x z, template.circuit.prepared.Contains x z ↔
      (Stabilizer.ofGraph graph).Contains x z)
    (equivalent : Stabilizer.LocallyEquivalent stabilizer (.ofGraph graph)) :
    ∃ synthesis, template.prepare localClass stabilizer = .ok synthesis := by
  obtain ⟨carrier, carrierCarries⟩ := equivalent
  have searched : stabilizer.xPart.height ≤ 8 := by rwa [Stabilizer.height_x_part]
  obtain ⟨layer, found, reaches⟩ :=
    Layer.exists_find searched ((valid.reaches_iff_carries simple).2 carrierCarries)
  have carries := (valid.reaches_iff_carries simple).1 reaches
  have sized : template.circuit.width = layer.qubits := by rw [width, carries.source]
  have size : Stabilizer.checkSize (template.unsigned layer).width = .ok () := by
    rw [Circuit.check_size_eq_ok_iff, unsigned, width]
    exact ⟨large, Nat.le_trans small (by decide)⟩
  have contained : ∀ generator ∈ (template.unsigned layer).prepared.generators,
      stabilizer.Contains generator.x generator.z := fun generator member =>
    contains_unsigned wellFormed sized draws carries (Stabilizer.contains_generator member)
  obtain ⟨rotated, done⟩ := Circuit.exists_rotate_into size width.symm valid contained
  refine ⟨⟨localClass, template, layer, rotated⟩, ?_⟩
  rw [prepare_of_find drawn found sized, done]
  rfl

end StabilizerPrep.Template

namespace StabilizerPrep.Store

set_option autoImplicit false

theorem validate_of_classify {stabilizer : Stabilizer} {localClass : LocalClass}
    (classified : classify stabilizer = .ok localClass) : stabilizer.validate = .ok () := by
  cases validated : stabilizer.validate with
  | ok => rfl
  | error fault =>
      by_cases supported : 2 ≤ stabilizer.qubits ∧ stabilizer.qubits ≤ 6
      · rw [Stabilizer.classify_of_some
          (Stabilizer.classify?_invalid supported.1 supported.2 validated)] at classified
        cases classified
      · rw [Stabilizer.classify_of_some (Stabilizer.classify?_unsupported supported)] at classified
        cases classified

theorem Grounded.sound {stabilizer : Stabilizer} {synthesis : Synthesis}
    (grounded : Grounded stabilizer synthesis) :
    stabilizer.validate = .ok () ∧
      ∃ prepared, Stabilizer.ofCircuit synthesis.circuit = .ok prepared ∧
        prepared.equivalent stabilizer = true ∧ stabilizer.equivalent prepared = true := by
  obtain ⟨localClass, template, classified, ⟨_, wellFormed⟩, done⟩ := grounded
  have validated := validate_of_classify classified
  exact ⟨validated,
    Template.prepare_sound wellFormed (stabilizer.validate_eq_ok_iff.1 validated) done⟩

theorem Grounded.well_formed {stabilizer : Stabilizer} {synthesis : Synthesis}
    (grounded : Grounded stabilizer synthesis) : synthesis.circuit.WellFormed := by
  obtain ⟨localClass, template, -, ⟨-, wellFormed⟩, done⟩ := grounded
  exact (Template.two_qubit_prepare wellFormed done).1

theorem Grounded.width {stabilizer : Stabilizer} {synthesis : Synthesis}
    (grounded : Grounded stabilizer synthesis) :
    synthesis.circuit.width = stabilizer.qubits ∧
      1 ≤ stabilizer.qubits ∧ stabilizer.qubits ≤ 64 := by
  obtain ⟨localClass, template, -, -, done⟩ := grounded
  obtain ⟨graph, layer, circuit, -, -, -, rotated, rfl⟩ := Template.prepare_ok done
  obtain ⟨same, size, wrong, -, rfl⟩ := Circuit.exists_wrong_signs_of_rotate_into rotated
  rw [Circuit.check_size_eq_ok_iff, ← same] at size
  exact ⟨same.symm, size⟩

/-- Synthesis never gives a wrong circuit. Over any source and after any
requests, a synthesis that is given belongs to a valid stabilizer and prepares
it, signs included, and a compressed circuit prepares what the original does. -/
theorem synthesis_prepares (source : Source) (requests : List Request) (device : Device) :
    (∀ stabilizer synthesis,
      (perform (synthesize stabilizer device) (after source requests)).1 = .ok synthesis →
      stabilizer.validate = .ok () ∧
        ∃ prepared, Stabilizer.ofCircuit synthesis.circuit = .ok prepared ∧
          prepared.equivalent stabilizer = true ∧ stabilizer.equivalent prepared = true) ∧
    ∀ circuit compressed,
      (perform (compress circuit device) (after source requests)).1 = .ok compressed →
      ∃ original prepared, Stabilizer.ofCircuit circuit = .ok original ∧
        Stabilizer.ofCircuit compressed = .ok prepared ∧
        prepared.equivalent original = true ∧ original.equivalent prepared = true := by
  have faithful := faithful_after source requests
  constructor
  · intro stabilizer synthesis done
    exact ((keeps_synthesize stabilizer device _ faithful).2 synthesis done).sound
  · intro circuit compressed done
    obtain ⟨original, synthesis, simulated, grounded, rfl⟩ :=
      (keeps_compress circuit device _ faithful).2 compressed done
    obtain ⟨_, prepared, follows, forth, back⟩ := grounded.sound
    exact ⟨original, prepared, simulated, follows, forth, back⟩

/-- A Bell state with a minus sign is synthesized from a table of two rows, which
was already read, and a circuit with two entangling gates is compressed. -/
theorem synthesis_prepares_pair :
    let source := Source.memory [(tableName 2 .all, "0:0:0:h0 h1\n1:1:1:h0 h1 cz0,1")]
    let pair := Stabilizer.ofGenerators [⟨0b11, 0, true⟩, ⟨0, 0b11, false⟩]
    let circuit := Circuit.mk 2 [⟨.h, [0]⟩, ⟨.cx, [0, 1]⟩, ⟨.s, [1]⟩, ⟨.cz, [0, 1]⟩]
    (∃ synthesis prepared,
      (perform (synthesize pair .all) (after source [.template 2 .all 1])).1 = .ok synthesis ∧
        Stabilizer.ofCircuit synthesis.circuit = .ok prepared ∧
        prepared.equivalent pair = true ∧ pair.equivalent prepared = true) ∧
    ∃ compressed original prepared,
      (perform (compress circuit .all) (after source [.template 2 .all 1])).1 = .ok compressed ∧
        Stabilizer.ofCircuit circuit = .ok original ∧
        Stabilizer.ofCircuit compressed = .ok prepared ∧
        prepared.equivalent original = true ∧ original.equivalent prepared = true := by
  intro source pair circuit
  obtain ⟨faithful, compresses⟩ := synthesis_prepares source [.template 2 .all 1] .all
  constructor
  · obtain ⟨synthesis, done⟩ :
        ∃ synthesis, (perform (synthesize pair .all) (after source [.template 2 .all 1])).1 =
          .ok synthesis := exists_of_is_ok (by decide +kernel)
    obtain ⟨-, prepared, simulated, equivalent⟩ := faithful pair synthesis done
    exact ⟨synthesis, prepared, done, simulated, equivalent⟩
  · obtain ⟨compressed, done⟩ :
        ∃ compressed, (perform (compress circuit .all) (after source [.template 2 .all 1])).1 =
          .ok compressed := exists_of_is_ok (by decide +kernel)
    obtain ⟨original, prepared, rest⟩ := compresses circuit compressed done
    exact ⟨compressed, original, prepared, done, rest⟩

end StabilizerPrep.Store
