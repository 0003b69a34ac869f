import StabilizerPrep.Proofs.OperatorText
import StabilizerPrep.Proofs.Preparation

/-!
# Readout of listed bases

A table of bases that the source has without circuits is completed by
synthesis. Every line of the list becomes the basis with the same number, its
operators keep the signs that are written in front of them, and the circuit
with that number is the inverse of one that prepares the basis. The summary is
that of these circuits.
-/

namespace StabilizerPrep.Pauli

set_option autoImplicit false

open Mask

/-- The text is that of the operator: its letters behind its sign, where a plus
may be left out. -/
def Written (pauli : Pauli) (text : List Char) : Prop :=
  (text = '-' :: pauli.letters ∧ pauli.sign = some true) ∨
    ((text = '+' :: pauli.letters ∨ text = pauli.letters) ∧ pauli.sign = some false)

def Generates (qubits : Nat) (pauli : Pauli) : Prop :=
  ∃ generator : Generator, generator.x < 2 ^ qubits ∧ generator.z < 2 ^ qubits ∧
    generator.toPauli qubits = pauli

theorem exists_of_read {text : List Char} {pauli : Pauli} (taken : read text = .ok pauli) :
    pauli.Written text ∧ pauli.Generates pauli.qubits := by
  obtain ⟨negative, body, parts⟩ : ∃ negative body, splitSign text = (negative, body) := ⟨_, _, rfl⟩
  rw [read, parts] at taken
  simp only at taken
  split at taken
  · cases taken
  split at taken
  · cases taken
  obtain ⟨factors, listed, built⟩ := exists_of_bind_ok taken
  obtain rfl := Except.ok.inj built
  constructor
  · have signed : (ofFactors negative factors).sign = some negative := sign_of_masks _ _ _ _
    rw [Written, signed, letters_of_factors, ← map_letter_of_read_factors listed]
    unfold splitSign at parts
    split at parts
    · obtain ⟨rfl, rfl⟩ := Prod.mk.inj parts
      exact .inr ⟨.inl rfl, rfl⟩
    · obtain ⟨rfl, rfl⟩ := Prod.mk.inj parts
      exact .inl ⟨rfl, rfl⟩
    · obtain ⟨rfl, rfl⟩ := Prod.mk.inj parts
      exact .inr ⟨.inr rfl, rfl⟩
  · refine ⟨⟨ofBits (factors.map Factor.hasX), ofBits (factors.map Factor.hasZ), negative⟩,
      ?_, ?_, rfl⟩
    · have bound := of_bits_lt (factors.map Factor.hasX)
      rwa [List.length_map] at bound
    · have bound := of_bits_lt (factors.map Factor.hasZ)
      rwa [List.length_map] at bound

end StabilizerPrep.Pauli

namespace StabilizerPrep.Stabilizer

set_option autoImplicit false

theorem paulis_of_paulis {paulis : List Pauli} {stabilizer : Stabilizer}
    (fit : ∀ pauli ∈ paulis, pauli.Generates paulis.length)
    (made : ofPaulis paulis = .ok stabilizer) : stabilizer.paulis = paulis := by
  choose generator xBound zBound same using fit
  let generators := paulis.attach.map fun pauli => generator pauli.1 pauli.2
  have length : generators.length = paulis.length := by simp [generators]
  have listed : generators.map (Generator.toPauli paulis.length) = paulis := by
    rw [List.map_map]
    refine (List.map_congr_left fun pauli _ => same pauli.1 pauli.2).trans ?_
    exact List.attach_map_subtype_val paulis
  have bounded : ∀ generator ∈ generators, generator.x < 2 ^ generators.length ∧
      generator.z < 2 ^ generators.length := by
    rw [length]
    intro _ member
    obtain ⟨pauli, -, rfl⟩ := List.mem_map.1 member
    exact ⟨xBound pauli.1 pauli.2, zBound pauli.1 pauli.2⟩
  obtain ⟨_, -, rest⟩ := exists_of_bind_ok made
  obtain ⟨found, mapped, built⟩ := exists_of_bind_ok rest
  have own := Circuit.mapM_generator_of paulis.length generators
  rw [listed, mapped] at own
  obtain rfl := Except.ok.inj own
  obtain rfl := Except.ok.inj built
  rw [Stabilizer.paulis, qubits, generators_of_generators bounded, length, listed]

end StabilizerPrep.Stabilizer

namespace StabilizerPrep.BasisTable

set_option autoImplicit false

theorem exists_of_read_pauli {text : List Char} {pauli : Pauli}
    (taken : readPauli text = .ok pauli) :
    pauli.Written (Text.trim text) ∧ pauli.Generates pauli.qubits := by
  simp only [readPauli] at taken
  split at taken
  next found =>
      obtain rfl := Except.ok.inj taken
      exact Pauli.exists_of_read found
  next => cases taken

theorem written_of_read_basis {qubits : Nat} {line : List Char} {basis : List Pauli}
    {stabilizer : Stabilizer} (taken : readBasis qubits line = .ok basis)
    (made : Stabilizer.ofPaulis basis = .ok stabilizer) :
    List.Forall₂ (fun field pauli => Pauli.Written pauli (Text.trim field)) (Text.split ',' line)
      stabilizer.paulis := by
  obtain ⟨paulis, listed, checked⟩ := exists_of_bind_ok taken
  split at checked
  swap
  · cases checked
  next shape =>
      obtain rfl := Except.ok.inj checked
      obtain ⟨length, sizes⟩ := shape
      have fields := (forall₂_of_mapM listed).imp fun _ _ own => exists_of_read_pauli own
      have fit := forall_of_forall₂ (fun _ _ own => own.2) fields
      rw [Stabilizer.paulis_of_paulis ?_ made]
      · exact fields.imp fun _ _ own => own.1
      · intro pauli member
        have size : pauli.qubits = paulis.length := by
          rw [length]
          exact beq_iff_eq.1 (List.all_eq_true.1 sizes pauli member)
        rw [← size]
        exact fit pauli member

/-- A list that can be read has one basis for each line, and as many of them as
a complete set has. -/
theorem lines_of_parse_bases {name text : String} {qubits : Nat} {bases : List (List Pauli)}
    (taken : parseBases name qubits text = .ok bases) :
    bases.length = 2 ^ qubits + 1 ∧
      List.Forall₂ (fun line basis => readBasis qubits line.2 = .ok basis)
        (Text.numberedLines text.toList) bases := by
  obtain ⟨rows, listed, rest⟩ := exists_of_bind_ok taken
  obtain ⟨_, counted, built⟩ := exists_of_bind_ok rest
  obtain rfl := Except.ok.inj built
  refine ⟨?_, Table.forall₂_of_read_rows listed⟩
  unfold checkCount at counted
  split at counted
  next complete => exact complete
  next => cases counted

theorem stabilizer_of_listed {table : BasisTable} {index : Nat} {basis : List Pauli}
    (listed : table.bases[index]? = some basis) :
    table.stabilizer index = Stabilizer.ofPaulis basis := by
  rw [stabilizer, listed]

theorem max?_eq_some_foldl {values : List Nat} (nonempty : values ≠ []) :
    values.max? = some (values.foldl max 0) := by
  cases values with
  | nil => exact absurd rfl nonempty
  | cons value values => rw [List.max?_cons', List.foldl_cons, Nat.zero_max]

theorem info_of_circuits (qubits : Nat) (device : Device) (bases : List (List Pauli))
    {circuits : List Circuit} (nonempty : circuits ≠ []) :
    (circuits.map Circuit.twoQubitCount).max? =
        some (ofCircuits qubits device bases circuits).info.maxCount ∧
      (circuits.map Circuit.twoQubitDepth).max? =
        some (ofCircuits qubits device bases circuits).info.maxDepth ∧
      (ofCircuits qubits device bases circuits).info.average =
        ⟨(circuits.map Circuit.twoQubitCount).sum, circuits.length⟩ := by
  refine ⟨max?_eq_some_foldl (by simpa using nonempty),
    max?_eq_some_foldl (by simpa using nonempty), ?_⟩
  have positive : 1 ≤ circuits.length := List.length_pos_iff.2 nonempty
  simp only [info, ofCircuits, Nat.max_eq_left positive]

end StabilizerPrep.BasisTable

namespace StabilizerPrep.Store

set_option autoImplicit false

theorem ReadsOut.prepares {basis : List Pauli} {circuit : Circuit}
    (reads : ReadsOut basis circuit) :
    ∃ stabilizer prepared, Stabilizer.ofPaulis basis = .ok stabilizer ∧
      Stabilizer.ofCircuit circuit.inverse = .ok prepared ∧
      prepared.equivalent stabilizer = true ∧ stabilizer.equivalent prepared = true := by
  obtain ⟨stabilizer, synthesis, made, grounded, rfl⟩ := reads
  obtain ⟨-, prepared, simulated, forth, back⟩ := grounded.sound
  rw [Circuit.inverse_inverse]
  exact ⟨stabilizer, prepared, made, simulated, forth, back⟩

/-- Tables of bases with synthesized circuits read their bases out. If the
source has no table with circuits but the store gives one, over any source and
after any requests, then it has `2^n + 1` bases and as many circuits. The
inverse of each circuit prepares the basis with the same number, whose
operators are written, signs included, in the line with that number in the list
of the source. The summary has the largest number and depth of two-qubit gates
of these circuits and the sum of the numbers. -/
theorem derived_bases_read_out (source : Source) (requests : List Request) {qubits : Nat}
    {device : Device} {file : String} {table : BasisTable}
    (missing : source.read (basisTableName qubits device) = .error (.missingTable file))
    (done : (perform (basisTable qubits device) (after source requests)).1 = .ok table) :
    table.bases.length = 2 ^ qubits + 1 ∧ table.circuits.length = 2 ^ qubits + 1 ∧
    (∃ text, source.read (basisListName qubits device) = .ok text ∧
      (Text.numberedLines text.toList).length = 2 ^ qubits + 1 ∧
      ∀ k < 2 ^ qubits + 1, ∃ number line circuit stabilizer prepared,
        (Text.numberedLines text.toList)[k]? = some (number, line) ∧
        table.circuits[k]? = some circuit ∧ table.stabilizer k = .ok stabilizer ∧
        List.Forall₂ (fun field pauli => Pauli.Written pauli (Text.trim field))
          (Text.split ',' line) stabilizer.paulis ∧
        Stabilizer.ofCircuit circuit.inverse = .ok prepared ∧
        prepared.equivalent stabilizer = true ∧ stabilizer.equivalent prepared = true) ∧
    table.info.circuits = 2 ^ qubits + 1 ∧
    (table.circuits.map Circuit.twoQubitCount).max? = some table.info.maxCount ∧
    (table.circuits.map Circuit.twoQubitDepth).max? = some table.info.maxDepth ∧
    table.info.average = ⟨(table.circuits.map Circuit.twoQubitCount).sum, 2 ^ qubits + 1⟩ := by
  have derived : Derives source qubits device table := by
    rcases (keeps_basis_table qubits device _ (faithful_after source requests)).2 table done with
      ⟨text, found, -⟩ | ⟨-, derived⟩
    · rw [missing] at found
      cases found
    · exact derived
  obtain ⟨text, bases, circuits, given, parsed, reads, rfl⟩ := derived
  obtain ⟨count, lines⟩ := BasisTable.lines_of_parse_bases parsed
  have circuitCount : circuits.length = 2 ^ qubits + 1 := reads.length_eq.symm.trans count
  have lineCount := lines.length_eq.trans count
  have nonempty : circuits ≠ [] := by
    rintro rfl
    cases circuitCount
  obtain ⟨maxCount, maxDepth, average⟩ := BasisTable.info_of_circuits qubits device bases nonempty
  rw [circuitCount] at average
  refine ⟨count, circuitCount, ⟨text, given, lineCount, ?_⟩, circuitCount, maxCount, maxDepth,
    average⟩
  intro k below
  have inLines : k < (Text.numberedLines text.toList).length := by rwa [lineCount]
  have inBases : k < bases.length := by rwa [count]
  have inCircuits : k < circuits.length := by rwa [circuitCount]
  have taken := lines.get inLines inBases
  obtain ⟨stabilizer, prepared, made, simulated, forth, back⟩ :=
    (reads.get inBases inCircuits).prepares
  refine ⟨_, _, circuits[k], stabilizer, prepared, List.getElem?_eq_getElem inLines,
    List.getElem?_eq_getElem inCircuits, ?_, BasisTable.written_of_read_basis taken made, simulated,
    forth, back⟩
  rw [BasisTable.stabilizer_of_listed (List.getElem?_eq_getElem inBases)]
  exact made

/-- Five signed bases on two qubits, listed with blanks and a blank line, and
asked for a second time. -/
theorem derived_bases_read_out_pair :
    let source := Source.memory
      [(tableName 2 .all, "0:0:0:h0 h1\n1:1:1:h0 h1 cz0,1"),
        (basisListName 2 .all, "-ZI,IZ\nXI,-IX\n\nYI,IY\n XY, -YZ\n+XZ,YX")]
    ∃ table, (perform (basisTable 2 .all) (after source [.bases 2 .all])).1 = .ok table ∧
      table.bases.length = 5 ∧ table.circuits.length = 5 ∧
      (∀ k < 5, ∃ circuit stabilizer prepared, table.circuits[k]? = some circuit ∧
        table.stabilizer k = .ok stabilizer ∧ Stabilizer.ofCircuit circuit.inverse = .ok prepared ∧
        prepared.equivalent stabilizer = true ∧ stabilizer.equivalent prepared = true) ∧
      (table.circuits.map Circuit.twoQubitCount).max? = some table.info.maxCount := by
  intro source
  obtain ⟨table, done⟩ :
      ∃ table, (perform (basisTable 2 .all) (after source [.bases 2 .all])).1 = .ok table :=
    exists_of_is_ok (by decide +kernel)
  obtain ⟨bases, circuits, ⟨text, -, -, each⟩, -, maxCount, -⟩ :=
    derived_bases_read_out source [.bases 2 .all]
      (show source.read (basisTableName 2 .all) = .error (.missingTable _) from rfl) done
  refine ⟨table, done, bases, circuits, ?_, maxCount⟩
  intro k below
  obtain ⟨-, -, circuit, stabilizer, prepared, -, listed, made, -, rest⟩ := each k below
  exact ⟨circuit, stabilizer, prepared, listed, made, rest⟩

end StabilizerPrep.Store
