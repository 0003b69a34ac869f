import StabilizerPrep.Proofs.BundledTables
import StabilizerPrep.Proofs.Preparation

/-!
# Synthesis over the bundled tables

The row of the class of a stabilizer draws a graph that is locally equivalent
to it, because both settle on the root with that number. So the layer solver
finds a layer, the rotation of the signs succeeds, and the result inherits the
two-qubit instructions of the row.
-/

namespace StabilizerPrep.Bundled

set_option autoImplicit false

open Board

variable {qubits coupling : Nat} {device : Device} {rows : List Row}

theorem Covers.exists_keeps (covers : Covers qubits device rows coupling) (small : qubits ≤ 6)
    {number : Nat} (inside : number < rows.length) :
    ∃ board, (rows.get ⟨number, inside⟩).Keeps qubits coupling number board := by
  have kept := is_kept_of_are_kept covers.kept inside
  rw [Nat.zero_add] at kept
  exact Row.exists_keeps small kept

theorem Covers.reads (covers : Covers qubits device rows coupling) (large : 2 ≤ qubits)
    (small : qubits ≤ 6) :
    Store.Reads .bundled qubits device ⟨qubits, device, rows.map (Row.template qubits)⟩ := by
  have proper : ∀ row ∈ rows, row.Proper qubits := by
    intro row member
    obtain ⟨⟨number, inside⟩, rfl⟩ := List.get_of_mem member
    obtain ⟨board, keeps⟩ := covers.exists_keeps small inside
    exact keeps.proper
  have count : LocalClass.count qubits = .ok rows.length := by
    rw [covers.length_eq]
    exact count_eq_classes large small
  refine ⟨text qubits rows, ?_, parse_text large small proper count⟩
  simp only [Source.bundled, covers.listed]

/-- The row of the class of a valid stabilizer leads to a synthesis. -/
theorem Covers.exists_synthesis {stabilizer : Stabilizer}
    (covers : Covers stabilizer.qubits device rows coupling) (large : 2 ≤ stabilizer.qubits)
    (small : stabilizer.qubits ≤ 6) (valid : stabilizer.Valid) :
    ∃ localClass row board synthesis, classify stabilizer = .ok localClass ∧
      rows[localClass.id]? = some row ∧
      row.Keeps stabilizer.qubits coupling localClass.id board ∧
      (row.template stabilizer.qubits).prepare localClass stabilizer = .ok synthesis := by
  obtain ⟨localClass, classified, numbered, drawn, -, equivalent⟩ := valid.exists_class large small
  have inside : localClass.id < rows.length := by rwa [covers.length_eq]
  obtain ⟨board, keeps⟩ := covers.exists_keeps small inside
  obtain ⟨-, -, settled⟩ := locally_equivalent_settle small keeps.draws.simple
  rw [keeps.settles, ← drawn] at settled
  obtain ⟨synthesis, done⟩ := @Template.exists_prepare _ localClass _ _ (by omega) (by omega) valid
    keeps.draws.wellFormed rfl keeps.graph_eq keeps.draws.simple keeps.draws.contains
    (equivalent.trans settled.symm)
  exact ⟨localClass, _, board, synthesis, Stabilizer.classify_of_some classified,
    List.getElem?_eq_getElem inside, keeps, done⟩

end StabilizerPrep.Bundled

namespace StabilizerPrep.Store

set_option autoImplicit false

open Board Bundled

def RunsOn (coupling : Graph) (circuit : Circuit) : Prop :=
  ∀ instruction ∈ circuit.instructions, instruction.isTwoQubit = true →
    ∃ first second, instruction.qubits = [first, second] ∧ coupling.adjacent first second = true

/-- Synthesis over the bundled tables always succeeds on a supported device and
is exact. The circuit prepares the stabilizer with its signs, its two-qubit
instructions run on the device, and their count and depth are those that the
table has for the class of the stabilizer. -/
theorem bundled_preparation (requests : List Request) {stabilizer : Stabilizer} {device : Device}
    (supported : device.supports stabilizer.qubits = true)
    (validated : stabilizer.validate = .ok ()) :
    ∃ circuit prepared coupling localClass table template,
      (perform (preparation stabilizer device) (after .bundled requests)).1 = .ok circuit ∧
      Stabilizer.ofCircuit circuit = .ok prepared ∧
      prepared.equivalent stabilizer = true ∧ stabilizer.equivalent prepared = true ∧
      device.coupling stabilizer.qubits = .ok coupling ∧ RunsOn coupling circuit ∧
      classify stabilizer = .ok localClass ∧
      Reads .bundled stabilizer.qubits device table ∧ table.get localClass.id = .ok template ∧
      circuit.twoQubitCount = template.cost ∧ circuit.twoQubitDepth = template.depth := by
  obtain ⟨large, small⟩ := range_of_supports supported
  have valid := stabilizer.validate_eq_ok_iff.1 validated
  obtain ⟨rows, coupling, covers⟩ :=
    exists_covers (stabilizer.qubits, device) (List.contains_iff_mem.1 supported)
  obtain ⟨localClass, row, board, synthesis, classified, listed, keeps, done⟩ :=
    Covers.exists_synthesis covers large small valid
  have reads := Covers.reads covers large small
  have found : (Table.mk stabilizer.qubits device (rows.map (Row.template stabilizer.qubits))).get
      localClass.id = .ok (row.template stabilizer.qubits) := by
    rw [Table.get, List.getElem?_map, listed]
    rfl
  have checked := check_supported_of_supports supported
  have performed : (perform (preparation stabilizer device) (after .bundled requests)).1 =
      .ok synthesis.circuit := by
    rw [fst_perform_preparation (faithful_after .bundled requests),
      synthesis_of_table checked classified (table_of_reads checked reads) found, done]
    rfl
  obtain ⟨prepared, simulated, forth, back⟩ :=
    Template.prepare_sound keeps.draws.wellFormed valid done
  obtain ⟨formed, kept⟩ : synthesis.circuit.WellFormed ∧ synthesis.circuit.twoQubit =
      (Circuit.mk stabilizer.qubits (row.instructions stabilizer.qubits)).twoQubit :=
    Template.two_qubit_prepare keeps.draws.wellFormed done
  refine ⟨synthesis.circuit, prepared, graph stabilizer.qubits coupling, localClass, _, _,
    performed, simulated, forth, back, covers.coupled, ?_, classified, reads,
    found, ?_, ?_⟩
  · intro instruction member two
    refine keeps.coupled instruction ?_
    rw [← kept]
    exact List.mem_filter.2 ⟨member, two⟩
  · rw [Circuit.two_qubit_count_eq formed, kept,
      ← Circuit.two_qubit_count_eq keeps.draws.wellFormed]
    exact keeps.count
  · rw [Circuit.two_qubit_depth_eq, kept, ← Circuit.two_qubit_depth_eq]
    exact keeps.depth

theorem bundled_preparation_pair :
    ∃ circuit prepared coupling localClass table template,
      (perform (preparation (.ofGenerators [⟨0b11, 0, true⟩, ⟨0, 0b11, false⟩]) .all)
        (after .bundled [])).1 = .ok circuit ∧
      Stabilizer.ofCircuit circuit = .ok prepared ∧
      prepared.equivalent (.ofGenerators [⟨0b11, 0, true⟩, ⟨0, 0b11, false⟩]) = true ∧
      (Stabilizer.ofGenerators [⟨0b11, 0, true⟩, ⟨0, 0b11, false⟩]).equivalent prepared = true ∧
      Device.all.coupling 2 = .ok coupling ∧ RunsOn coupling circuit ∧
      classify (.ofGenerators [⟨0b11, 0, true⟩, ⟨0, 0b11, false⟩]) = .ok localClass ∧
      Reads .bundled 2 .all table ∧ table.get localClass.id = .ok template ∧
      circuit.twoQubitCount = template.cost ∧ circuit.twoQubitDepth = template.depth :=
  @bundled_preparation [] (.ofGenerators [⟨0b11, 0, true⟩, ⟨0, 0b11, false⟩]) .all (by decide)
    (by rfl)

end StabilizerPrep.Store
