import StabilizerPrep.Proofs.GraphCode
import StabilizerPrep.Proofs.Preparation

/-!
# Faults of synthesis

Over any table that can be read, synthesis of a valid stabilizer fails in two
ways only, and each of them says what is wrong with the row of the class: no
layer leads to the graph of the row, or the circuit of the row does not prepare
that graph. A row without either defect always gives a synthesis.
-/

namespace StabilizerPrep.Table

set_option autoImplicit false

theorem count_of_parse {name text : String} {qubits : Nat} {device : Device} {table : Table}
    (taken : parse name qubits device text = .ok table) :
    LocalClass.count qubits = .ok table.templates.length := by
  obtain ⟨expected, counted, rest⟩ := exists_of_bind_ok taken
  obtain ⟨templates, -, checked⟩ := exists_of_bind_ok rest
  split at checked
  next length =>
      obtain rfl := Except.ok.inj checked
      rw [counted, ← length]
  next => cases checked

theorem get_of_lt {table : Table} {id : Nat} (inside : id < table.templates.length) :
    table.get id = .ok table.templates[id] := by
  simp only [get, List.getElem?_eq_getElem inside]

end StabilizerPrep.Table

namespace StabilizerPrep.Circuit

set_option autoImplicit false

theorem wrong_signs_error {target : Stabilizer} {index : Nat} {paulis : List Pauli} {fault : Fault}
    (failed : wrongSigns target index paulis = .error fault) :
    ∃ position, fault = .differentGroup position := by
  induction paulis generalizing index with
  | nil => cases failed
  | cons pauli others ih =>
      rw [wrongSigns] at failed
      cases sign : target.signOf pauli with
      | none =>
          rw [sign] at failed
          exact ⟨index, (Except.error.inj failed).symm⟩
      | some wanted =>
          rw [sign] at failed
          cases rest : wrongSigns target (index + 1) others with
          | error later =>
              rw [rest] at failed
              obtain rfl : later = fault := Except.error.inj failed
              exact ih rest
          | ok wrong =>
              rw [rest] at failed
              cases failed

theorem rotate_into_error {circuit : Circuit} {target : Stabilizer} {fault : Fault}
    (size : Stabilizer.checkSize circuit.width = .ok ()) (same : target.qubits = circuit.width)
    (failed : circuit.rotateInto target = .error fault) :
    ∃ position, fault = .differentGroup position := by
  rw [rotate_into_eq size same] at failed
  cases found : wrongSigns target 0 circuit.prepared.paulis with
  | error other =>
      rw [found] at failed
      obtain rfl : other = fault := Except.error.inj failed
      exact wrong_signs_error found
  | ok wrong =>
      rw [found] at failed
      cases failed

/-- Rotation succeeds only if the group of the target has every prepared
operator up to sign. -/
theorem contains_of_rotate_into {circuit rotated : Circuit} {target : Stabilizer}
    (done : circuit.rotateInto target = .ok rotated) {x z : Nat}
    (contained : circuit.prepared.Contains x z) : target.Contains x z := by
  obtain ⟨same, -, wrong, found, -⟩ := exists_wrong_signs_of_rotate_into done
  obtain ⟨-, -, signs⟩ := wrong_signs_ok found
  refine contained.induction target.Contains Stabilizer.contains_zero
    (fun own other => own.xor other) ?_
  intro generator member
  obtain ⟨xBound, zBound⟩ := (Stabilizer.contains_generator member).bounded
  rw [qubits_prepared, ← same] at xBound zBound
  have written : generator.toPauli circuit.prepared.qubits ∈ circuit.prepared.paulis :=
    List.mem_map.2 ⟨generator, member, rfl⟩
  obtain ⟨position, inside, listed⟩ := List.mem_iff_getElem.1 written
  obtain ⟨wanted, sign, -⟩ := signs position inside
  rw [listed] at sign
  exact Stabilizer.contains_of_sign_in_group xBound zBound sign

end StabilizerPrep.Circuit

namespace StabilizerPrep.Template

set_option autoImplicit false

variable {template : Template} {stabilizer : Stabilizer} {graph : Graph} {layer : Layer}

/-- If the inverse of the layer leads from a template into the group of the
stabilizer, then the template prepares the graph state. -/
theorem contains_of_unsigned (wellFormed : template.circuit.WellFormed)
    (width : template.circuit.width = layer.qubits)
    (carries : Stabilizer.Carries layer stabilizer (.ofGraph graph))
    (led : ∀ x z, (template.unsigned layer).prepared.Contains x z → stabilizer.Contains x z)
    {x z : Nat} (contained : template.circuit.prepared.Contains x z) :
    (Stabilizer.ofGraph graph).Contains x z := by
  let moved := Instruction.moveAll layer.circuit.inverse.instructions (x, z)
  have reached : (template.unsigned layer).prepared.Contains moved.1 moved.2 :=
    (Circuit.contains_prepared_append_iff (well_formed_unsigned wellFormed width)).2
      ⟨(x, z), contained, rfl⟩
  have bounds := reached.bounded
  rw [Circuit.qubits_prepared, unsigned, width] at bounds
  obtain ⟨sameX, sameZ⟩ := Prod.mk.inj (Layer.act_of_move_all_inverse (rfl : _ = moved) bounds)
  have image := (carries.contains _ _ bounds.1 bounds.2).1 (led _ _ reached)
  rwa [sameX, sameZ] at image

/-- Behind a layer onto its graph state, a template is rotated into place
exactly when it prepares that graph state up to signs. -/
theorem exists_rotate_into_iff (large : 0 < stabilizer.qubits) (small : stabilizer.qubits ≤ 64)
    (valid : stabilizer.Valid) (simple : graph.Simple)
    (wellFormed : template.circuit.WellFormed)
    (width : template.circuit.width = stabilizer.qubits)
    (carries : Stabilizer.Carries layer stabilizer (.ofGraph graph)) :
    (∃ rotated, (template.unsigned layer).rotateInto stabilizer = .ok rotated) ↔
      template.circuit.prepared.sameUpToSigns (.ofGraph graph) = true := by
  have sized : template.circuit.width = layer.qubits := by rw [width, carries.source]
  have graphValid := Stabilizer.valid_of_graph simple
  have ownValid := Circuit.valid_prepared wellFormed
  constructor
  · rintro ⟨rotated, done⟩
    have part := @contains_of_unsigned _ _ _ _ wellFormed sized carries fun _ _ =>
      Circuit.contains_of_rotate_into done
    rw [Stabilizer.same_up_to_signs_iff]
    refine ⟨by rw [Circuit.qubits_prepared, sized, carries.target], ?_⟩
    intro generator member other otherMember
    rw [Generator.commutes_eq, beq_iff_eq]
    exact graphValid.dot_eq (part (Stabilizer.contains_generator member))
      (Stabilizer.contains_generator otherMember)
  · intro alike
    obtain ⟨-, draws⟩ := (ownValid.same_up_to_signs_iff_contains graphValid).1 alike
    have size : Stabilizer.checkSize (template.unsigned layer).width = .ok () := by
      rw [Circuit.check_size_eq_ok_iff, unsigned, width]
      exact ⟨large, small⟩
    exact Circuit.exists_rotate_into size width.symm valid fun generator member =>
      contains_unsigned wellFormed sized draws carries (Stabilizer.contains_generator member)

end StabilizerPrep.Template

namespace StabilizerPrep.Store

set_option autoImplicit false

def LeadsTo (stabilizer : Stabilizer) (graph : Graph) : Prop :=
  ∃ layer : Layer, layer.qubits = stabilizer.qubits ∧
    ∃ image, Stabilizer.ofMatrices (layer.transform stabilizer.xPart stabilizer.zPart).1.digits
        (layer.transform stabilizer.xPart stabilizer.zPart).2.digits none = .ok image ∧
      image.sameUpToSigns (.ofGraph graph) = true

/-- A template either misses the class of the stabilizer, or it does not
prepare its graph, or it leads to a synthesis. -/
theorem prepare_cases {stabilizer : Stabilizer} {template : Template} {graph : Graph}
    {localClass : LocalClass} (large : 2 ≤ stabilizer.qubits) (small : stabilizer.qubits ≤ 6)
    (valid : stabilizer.Valid) (wellFormed : template.circuit.WellFormed)
    (width : template.circuit.width = stabilizer.qubits) (drawn : template.graph = .ok graph)
    (simple : graph.Simple) :
    (¬LeadsTo stabilizer graph ∧
        template.prepare localClass stabilizer = .error (.noLocalLayer template.graphId)) ∨
      (LeadsTo stabilizer graph ∧
        template.circuit.prepared.sameUpToSigns (.ofGraph graph) = false ∧
          ∃ index, template.prepare localClass stabilizer = .error (.differentGroup index)) ∨
      (LeadsTo stabilizer graph ∧
        template.circuit.prepared.sameUpToSigns (.ofGraph graph) = true ∧
          ∃ synthesis, template.prepare localClass stabilizer = .ok synthesis) := by
  have leads : LeadsTo stabilizer graph ↔
      Stabilizer.LocallyEquivalent stabilizer (.ofGraph graph) :=
    (valid.locally_equivalent_iff (Stabilizer.valid_of_graph simple) large small).symm
  cases found : Layer.find stabilizer.xPart stabilizer.zPart graph with
  | none =>
      refine .inl ⟨?_, Template.prepare_of_absent drawn found⟩
      rw [leads]
      rintro ⟨layer, carries⟩
      obtain ⟨other, otherFound, -⟩ := Layer.exists_find
        (by rw [stabilizer.height_x_part]; omega) ((valid.reaches_iff_carries simple).2 carries)
      rw [found] at otherFound
      cases otherFound
  | some layer =>
      have carries := (valid.reaches_iff_carries simple).1 (Layer.find_some found)
      have led : LeadsTo stabilizer graph := leads.2 ⟨layer, carries⟩
      have sized : template.circuit.width = layer.qubits := by rw [width, carries.source]
      have size : Stabilizer.checkSize (template.unsigned layer).width = .ok () := by
        rw [Circuit.check_size_eq_ok_iff, Template.unsigned, width]
        exact ⟨by omega, Nat.le_trans small (by decide)⟩
      have rotates := Template.exists_rotate_into_iff (by omega) (by omega) valid simple wellFormed
        width carries
      rw [Template.prepare_of_find drawn found sized]
      cases rotated : (template.unsigned layer).rotateInto stabilizer with
      | error fault =>
          obtain ⟨index, rfl⟩ := Circuit.rotate_into_error size width.symm rotated
          refine .inr (.inl ⟨led, ?_, index, rfl⟩)
          rw [Bool.eq_false_iff, Ne, ← rotates, rotated]
          rintro ⟨_, impossible⟩
          cases impossible
      | ok circuit => exact .inr (.inr ⟨led, rotates.1 ⟨circuit, rotated⟩, _, rfl⟩)

/-- Over any table that the source has for a supported device, synthesis of a
valid stabilizer has three outcomes, and each says exactly what the row of its
class is like. No layer leads to the graph of the row, or one does but the
circuit of the row does not prepare that graph, or else there is a synthesis. -/
theorem synthesis_outcome (source : Source) (requests : List Request) {stabilizer : Stabilizer}
    {device : Device} {table : Table} {localClass : LocalClass}
    (supported : device.supports stabilizer.qubits = true)
    (reads : Reads source stabilizer.qubits device table)
    (validated : stabilizer.validate = .ok ())
    (classified : classify stabilizer = .ok localClass) :
    ∃ template graph prepared, table.get localClass.id = .ok template ∧
      Graph.decompress stabilizer.qubits template.graphId = .ok graph ∧
      Stabilizer.ofCircuit template.circuit = .ok prepared ∧
      ((perform (synthesize stabilizer device) (after source requests)).1 =
          .error (.noLocalLayer template.graphId) ↔ ¬LeadsTo stabilizer graph) ∧
      ((∃ index, (perform (synthesize stabilizer device) (after source requests)).1 =
          .error (.differentGroup index)) ↔
        LeadsTo stabilizer graph ∧ prepared.sameUpToSigns (.ofGraph graph) = false) ∧
      ((∃ synthesis, (perform (synthesize stabilizer device) (after source requests)).1 =
          .ok synthesis) ↔
        LeadsTo stabilizer graph ∧ prepared.sameUpToSigns (.ofGraph graph) = true) ∧
      ∀ fault, (perform (synthesize stabilizer device) (after source requests)).1 = .error fault →
        fault = .noLocalLayer template.graphId ∨ ∃ index, fault = .differentGroup index := by
  obtain ⟨large, small⟩ := range_of_supports supported
  have valid := stabilizer.validate_eq_ok_iff.1 validated
  have checked := check_supported_of_supports supported
  have ⟨text, _, parsed⟩ := reads
  have inside : localClass.id < table.templates.length := by
    obtain ⟨found, again, bound, -⟩ := valid.exists_class large small
    rw [Stabilizer.classify_of_some again] at classified
    obtain rfl := Except.ok.inj classified
    have counted := Table.count_of_parse parsed
    rw [Board.count_eq_classes large small] at counted
    rwa [← Except.ok.inj counted]
  obtain ⟨width, wellFormed⟩ := Table.sound_of_parse parsed _ (List.getElem_mem inside)
  have listed := Table.get_of_lt inside
  generalize table.templates[localClass.id] = template at width wellFormed listed
  have drawn : template.graph = .ok (.ofPacked stabilizer.qubits template.graphId) := by
    rw [Template.graph, width]
    exact Graph.decompress_of_le (Nat.le_trans small (by decide)) _
  have simulated : Stabilizer.ofCircuit template.circuit = .ok template.circuit.prepared := by
    apply Circuit.of_circuit_eq
    rw [Circuit.check_size_eq_ok_iff, width]
    exact ⟨by omega, Nat.le_trans small (by decide)⟩
  refine ⟨template, .ofPacked stabilizer.qubits template.graphId, _, listed, ?_, simulated, ?_⟩
  · rw [← drawn, Template.graph, width]
  · rw [fst_perform_synthesize (faithful_after source requests),
      synthesis_of_table checked classified (table_of_reads checked reads) listed]
    obtain ⟨lost, failed⟩ | ⟨led, differs, index, failed⟩ | ⟨led, same, synthesis, done⟩ :=
      @prepare_cases _ _ _ localClass large small valid wellFormed width drawn
        (Graph.simple_of_edges _ _)
    · rw [failed]
      simp [lost]
    · rw [failed]
      simp [led, differs]
    · rw [done]
      simp [led, same]

/-- The second row declares an edge that its circuit does not make. -/
theorem synthesis_outcome_pair :
    let source := Source.memory [(tableName 2 .all, "0:0:0:h0 h1\n1:1:1:h0 h1")]
    ∃ table localClass template,
      Device.all.supports 2 = true ∧ Reads source 2 .all table ∧
      (Stabilizer.ofGenerators [⟨0b11, 0, true⟩, ⟨0, 0b11, false⟩]).validate = .ok () ∧
      classify (.ofGenerators [⟨0b11, 0, true⟩, ⟨0, 0b11, false⟩]) = .ok localClass ∧
      table.get localClass.id = .ok template ∧
      LeadsTo (.ofGenerators [⟨0b11, 0, true⟩, ⟨0, 0b11, false⟩]) (.ofPacked 2 template.graphId) ∧
      ∃ index, (perform (synthesize (.ofGenerators [⟨0b11, 0, true⟩, ⟨0, 0b11, false⟩]) .all)
        (after source [])).1 = .error (.differentGroup index) := by
  intro source
  have reads : Reads source 2 .all ⟨2, .all,
      [⟨0, 0, 0, 2, [⟨.h, [0]⟩, ⟨.h, [1]⟩]⟩, ⟨1, 1, 1, 2, [⟨.h, [0]⟩, ⟨.h, [1]⟩]⟩]⟩ := by
    refine ⟨"0:0:0:h0 h1\n1:1:1:h0 h1", ?_, by rfl⟩
    simp [source, Source.memory]
  have classified : classify (.ofGenerators [⟨0b11, 0, true⟩, ⟨0, 0b11, false⟩]) =
      .ok ⟨.two .entangled, ⟨[[0, 1]]⟩, 1⟩ := by rfl
  obtain ⟨template, graph, prepared, listed, drawn, simulated, -, differs, -, -⟩ :=
    @synthesis_outcome source [] (.ofGenerators [⟨0b11, 0, true⟩, ⟨0, 0b11, false⟩]) .all _ _
      (by decide) reads (by rfl) classified
  obtain rfl := Except.ok.inj listed
  obtain rfl := Except.ok.inj drawn
  obtain rfl := Except.ok.inj simulated
  have led : LeadsTo (.ofGenerators [⟨0b11, 0, true⟩, ⟨0, 0b11, false⟩]) (.ofPacked 2 1) :=
    ⟨⟨[.i, .h]⟩, rfl, _, rfl, rfl⟩
  exact ⟨_, _, _, by decide, reads, by rfl, classified, listed, led, differs.2 ⟨led, by rfl⟩⟩

end StabilizerPrep.Store
