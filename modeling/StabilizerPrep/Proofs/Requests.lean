import StabilizerPrep.Proofs.LayerAction
import StabilizerPrep.Proofs.Outcomes
import StabilizerPrep.Template.Store

/-!
# Requests to a store

A store only keeps tables that it has read from its source, or that it has
derived from a list of bases there. Whatever the source holds, the circuits of
template tables fit their size, because reading a table checks every
instruction. All this holds in every state that a store can get into by any
requests in any order.
-/

namespace StabilizerPrep

set_option autoImplicit false

namespace Circuit

theorem forM_check_within {width : Nat} {instructions : List Instruction}
    (checked : instructions.forM (Instruction.checkWithin width) = .ok ()) :
    ∀ instruction ∈ instructions, instruction.checkWithin width = .ok () := by
  induction instructions with
  | nil => simp
  | cons first rest ih =>
      obtain ⟨_, own, later⟩ := exists_of_bind_ok checked
      intro instruction member
      rcases List.mem_cons.1 member with rfl | laterMember
      · exact own
      · exact ih later instruction laterMember

theorem well_formed_of_read {width : Nat} {letters : List Char} {circuit : Circuit}
    (taken : read width letters = .ok circuit) : circuit.width = width ∧ circuit.WellFormed := by
  obtain ⟨instructions, _, fitted⟩ := exists_of_bind_ok taken
  obtain ⟨_, checked, built⟩ := exists_of_bind_ok fitted
  obtain rfl := Except.ok.inj built
  exact ⟨rfl, forM_check_within checked⟩

end Circuit

namespace Table

def Sound (qubits : Nat) (table : Table) : Prop :=
  ∀ template ∈ table.templates, template.circuit.width = qubits ∧ template.circuit.WellFormed

theorem well_formed_of_read_row {qubits : Nat} {line : List Char} {template : Template}
    (taken : readRow qubits line = .ok template) :
    template.circuit.width = qubits ∧ template.circuit.WellFormed := by
  rw [readRow] at taken
  split at taken
  · obtain ⟨graphId, _, bounded⟩ := exists_of_bind_ok taken
    split at bounded
    · cases bounded
    · obtain ⟨cost, _, rest⟩ := exists_of_bind_ok bounded
      obtain ⟨depth, _, last⟩ := exists_of_bind_ok rest
      split at last
      next circuit circuitRead =>
          obtain rfl := Except.ok.inj last
          exact Circuit.well_formed_of_read circuitRead
      next => cases last
  · cases taken

theorem forall₂_of_read_rows {α : Type} {name : String} {read : List Char → Except TableFault α}
    {lines : List (Nat × List Char)} {rows : List α}
    (taken : readRows name read lines = .ok rows) :
    List.Forall₂ (fun line row => read line.2 = .ok row) lines rows := by
  refine (forall₂_of_mapM taken).imp ?_
  rintro ⟨number, letters⟩ row own
  cases found : read letters with
  | error fault =>
      simp only [found] at own
      cases own
  | ok value =>
      simp only [found] at own
      obtain rfl := Except.ok.inj own
      rfl

theorem forall_of_read_rows {α : Type} {name : String} {read : List Char → Except TableFault α}
    {holds : α → Prop} (sound : ∀ line row, read line = .ok row → holds row)
    {lines : List (Nat × List Char)} {rows : List α}
    (taken : readRows name read lines = .ok rows) : ∀ row ∈ rows, holds row :=
  forall_of_forall₂ (fun line : Nat × List Char => sound line.2) (forall₂_of_read_rows taken)

theorem sound_of_parse {name text : String} {qubits : Nat} {device : Device} {table : Table}
    (taken : parse name qubits device text = .ok table) : table.Sound qubits := by
  obtain ⟨expected, _, rest⟩ := exists_of_bind_ok taken
  obtain ⟨templates, listed, counted⟩ := exists_of_bind_ok rest
  split at counted
  · obtain rfl := Except.ok.inj counted
    exact forall_of_read_rows (fun _ _ => well_formed_of_read_row) listed
  · cases counted

end Table

namespace Store

def Reads (source : Source) (qubits : Nat) (device : Device) (table : Table) : Prop :=
  ∃ text, source.read (tableName qubits device) = .ok text ∧
    Table.parse (tableName qubits device) qubits device text = .ok table

/-- A synthesis comes from a class of the stabilizer and a template that fits
its size. -/
def Grounded (stabilizer : Stabilizer) (synthesis : Synthesis) : Prop :=
  ∃ (localClass : LocalClass) (template : Template), classify stabilizer = .ok localClass ∧
    (template.circuit.width = stabilizer.qubits ∧ template.circuit.WellFormed) ∧
    template.prepare localClass stabilizer = .ok synthesis

def ReadsOut (basis : List Pauli) (circuit : Circuit) : Prop :=
  ∃ stabilizer synthesis, Stabilizer.ofPaulis basis = .ok stabilizer ∧
    Grounded stabilizer synthesis ∧ synthesis.circuit.inverse = circuit

/-- The table has the bases that the source lists, each with the circuit that
has been synthesized for it. -/
def Derives (source : Source) (qubits : Nat) (device : Device) (table : BasisTable) : Prop :=
  ∃ text bases circuits, source.read (basisListName qubits device) = .ok text ∧
    BasisTable.parseBases (basisListName qubits device) qubits text = .ok bases ∧
    List.Forall₂ ReadsOut bases circuits ∧ table = .ofCircuits qubits device bases circuits

/-- The table is what the source has for the bases of a size and a device. If
there is no file with circuits, it is derived from the list of bases. -/
def ReadsBases (source : Source) (qubits : Nat) (device : Device) (table : BasisTable) : Prop :=
  (∃ text, source.read (basisTableName qubits device) = .ok text ∧
    BasisTable.parse (basisTableName qubits device) qubits device text = .ok table) ∨
  (∃ file, source.read (basisTableName qubits device) = .error (.missingTable file)) ∧
    Derives source qubits device table

/-- The store has the given source, and every table that it keeps is what the
source has. -/
structure Faithful (source : Source) (store : Store) : Prop where
  source_eq : store.source = source
  tables : ∀ entry ∈ store.tables, Reads source entry.1.1 entry.1.2 entry.2
  bases : ∀ entry ∈ store.bases, ReadsBases source entry.1.1 entry.1.2 entry.2

def perform {α : Type} (action : WithStore α) (store : Store) : Except Fault α × Store :=
  action.run.run store

theorem perform_bind {α β : Type} (action : WithStore α) (next : α → WithStore β) (store : Store) :
    perform (action >>= next) store =
      match perform action store with
      | (.ok value, left) => perform (next value) left
      | (.error fault, left) => (.error fault, left) := by
  change (ExceptT.bindCont next (perform action store).1).run (perform action store).2 = _
  cases perform action store with
  | mk outcome left => cases outcome <;> rfl

theorem perform_bind_of_ok {α β : Type} {action : WithStore α} {next : α → WithStore β}
    {store left : Store} {value : α} (done : perform action store = (.ok value, left)) :
    perform (action >>= next) store = perform (next value) left := by
  rw [perform_bind, done]

/-- A computation keeps stores faithful, and what it gives has a property. -/
def Keeps {α : Type} (source : Source) (action : WithStore α) (holds : α → Prop) : Prop :=
  ∀ store, Faithful source store →
    Faithful source (perform action store).2 ∧
      ∀ value, (perform action store).1 = .ok value → holds value

namespace Keeps

variable {α β : Type} {source : Source}

theorem of_pure {value : α} {holds : α → Prop} (own : holds value) :
    Keeps source (pure value : WithStore α) holds := by
  intro store faithful
  refine ⟨faithful, ?_⟩
  rintro _ same
  obtain rfl := Except.ok.inj same
  exact own

theorem of_throw {fault : Fault} {holds : α → Prop} :
    Keeps source (throw fault : WithStore α) holds :=
  fun _ faithful => ⟨faithful, fun _ impossible => by cases impossible⟩

theorem of_except {outcome : Except Fault α} {holds : α → Prop}
    (own : ∀ value, outcome = .ok value → holds value) :
    Keeps source (ofExcept outcome : WithStore α) holds := by
  cases outcome with
  | ok value => exact of_pure (own value rfl)
  | error fault => exact of_throw

theorem of_bind {action : WithStore α} {next : α → WithStore β} {between : α → Prop}
    {holds : β → Prop} (first : Keeps source action between)
    (later : ∀ value, between value → Keeps source (next value) holds) :
    Keeps source (action >>= next) holds := by
  intro store faithful
  obtain ⟨kept, given⟩ := first store faithful
  rw [perform_bind]
  match outcome : perform action store with
  | (.ok value, left) =>
      rw [outcome] at kept given
      exact later value (given value rfl) left kept
  | (.error fault, left) =>
      rw [outcome] at kept
      exact ⟨kept, fun _ impossible => by cases impossible⟩

theorem weaken {action : WithStore α} {holds weaker : α → Prop} (keeps : Keeps source action holds)
    (imply : ∀ value, holds value → weaker value) : Keeps source action weaker :=
  fun store faithful => ⟨(keeps store faithful).1,
    fun value same => imply value ((keeps store faithful).2 value same)⟩

theorem of_modify {change : Store → Store}
    (keeps : ∀ store, Faithful source store → Faithful source (change store)) :
    Keeps source (modify change : WithStore PUnit) fun _ => True :=
  fun store faithful => ⟨keeps store faithful, fun _ _ => trivial⟩

theorem of_get : Keeps source (get : WithStore Store) (Faithful source) := by
  intro store faithful
  refine ⟨faithful, ?_⟩
  rintro _ same
  obtain rfl := Except.ok.inj same
  exact faithful

theorem of_try_catch {action : WithStore α} {handler : Fault → WithStore α} {holds : α → Prop}
    (first : Keeps source action holds)
    (later : ∀ store fault, Faithful source store → (perform action store).1 = .error fault →
      Keeps source (handler fault) holds) :
    Keeps source (tryCatch action handler) holds := by
  intro store faithful
  obtain ⟨kept, given⟩ := first store faithful
  have step : perform (tryCatch action handler) store =
      match perform action store with
      | (.ok value, left) => (.ok value, left)
      | (.error fault, left) => perform (handler fault) left := by
    simp only [perform, tryCatch, tryCatchThe, MonadExceptOf.tryCatch, ExceptT.tryCatch,
      ExceptT.run_mk, StateT.run_bind]
    cases performed : action.run.run store with
    | mk outcome left =>
        rw [show StateT.run action store = (outcome, left) from performed]
        cases outcome <;> rfl
  rw [step]
  match outcome : perform action store with
  | (.ok value, left) =>
      rw [outcome] at kept given
      exact ⟨kept, given⟩
  | (.error fault, left) =>
      rw [outcome] at kept
      exact later store fault faithful (congrArg Prod.fst outcome) left kept

theorem of_mapM {items : List α} {action : α → WithStore β} {holds : α → β → Prop}
    (each : ∀ item, Keeps source (action item) (holds item)) :
    Keeps source (items.mapM action) (List.Forall₂ holds items) := by
  induction items with
  | nil => exact of_pure .nil
  | cons item items ih =>
      rw [List.mapM_cons]
      exact of_bind (each item) fun _ own => of_bind ih fun _ rest => of_pure (.cons own rest)

end Keeps

variable {source : Source}

theorem keeps_read (file : String) :
    Keeps source (read file) fun text => source.read file = .ok text := by
  refine .of_bind (.of_modify fun _ faithful =>
    ⟨faithful.source_eq, faithful.tables, faithful.bases⟩) fun _ _ => ?_
  refine .of_bind .of_get fun store faithful => .of_except fun text found => ?_
  rwa [faithful.source_eq] at found

theorem keeps_table (qubits : Nat) (device : Device) :
    Keeps source (table qubits device) (Reads source qubits device) := by
  refine .of_bind (.of_except fun _ _ => trivial) fun _ (_ : True) => ?_
  refine .of_bind .of_get fun store faithful => ?_
  split
  next table found =>
      obtain ⟨before, later, listed, _⟩ := List.lookup_eq_some_iff.1 found
      exact .of_pure (faithful.tables ((qubits, device), table) (by simp [listed]))
  next =>
      refine .of_bind (keeps_read _) fun text found => ?_
      refine .of_bind (.of_except fun table parsed => parsed) fun table parsed => ?_
      have reads : Reads source qubits device table := ⟨text, found, parsed⟩
      refine .of_bind (.of_modify fun other otherFaithful =>
        ⟨otherFaithful.source_eq, ?_, otherFaithful.bases⟩) fun _ _ => .of_pure reads
      intro entry member
      rcases List.mem_cons.1 member with rfl | earlier
      · exact reads
      · exact otherFaithful.tables entry earlier

theorem keeps_lookup (qubits : Nat) (device : Device) (id : Nat) :
    Keeps source (lookup qubits device id) fun template =>
      template.circuit.width = qubits ∧ template.circuit.WellFormed := by
  refine .of_bind (keeps_table qubits device) fun table reads => .of_except fun template found => ?_
  obtain ⟨text, -, parsed⟩ := reads
  rw [Table.get] at found
  split at found
  next listed =>
      obtain rfl := Except.ok.inj found
      exact Table.sound_of_parse parsed _ (List.mem_of_getElem? listed)
  next => cases found

theorem keeps_synthesize (stabilizer : Stabilizer) (device : Device) :
    Keeps source (synthesize stabilizer device) (Grounded stabilizer) := by
  refine .of_bind (.of_except fun _ _ => trivial) fun _ (_ : True) => ?_
  refine .of_bind (.of_except fun localClass classified => classified)
    fun localClass classified => ?_
  refine .of_bind (keeps_lookup _ _ _) fun template sound => .of_except fun synthesis done => ?_
  exact ⟨localClass, template, classified, sound, done⟩

theorem keeps_preparation (stabilizer : Stabilizer) (device : Device) :
    Keeps source (preparation stabilizer device) fun circuit =>
      ∃ synthesis, Grounded stabilizer synthesis ∧ synthesis.circuit = circuit :=
  .of_bind (keeps_synthesize stabilizer device) fun synthesis grounded =>
    .of_pure ⟨synthesis, grounded, rfl⟩

theorem keeps_compress (circuit : Circuit) (device : Device) :
    Keeps source (compress circuit device) fun compressed =>
      ∃ stabilizer synthesis, Stabilizer.ofCircuit circuit = .ok stabilizer ∧
        Grounded stabilizer synthesis ∧ synthesis.circuit = compressed := by
  refine .of_bind (.of_except fun stabilizer simulated => simulated) fun stabilizer simulated => ?_
  refine (keeps_preparation stabilizer device).weaken fun compressed found => ?_
  obtain ⟨synthesis, grounded, same⟩ := found
  exact ⟨stabilizer, synthesis, simulated, grounded, same⟩

theorem keeps_readout (stabilizer : Stabilizer) (device : Device) :
    Keeps source (readout stabilizer device) fun circuit =>
      ∃ synthesis, Grounded stabilizer synthesis ∧ synthesis.circuit.inverse = circuit := by
  refine .of_bind (keeps_preparation stabilizer device) fun circuit found => ?_
  obtain ⟨synthesis, grounded, rfl⟩ := found
  exact .of_pure ⟨synthesis, grounded, rfl⟩

theorem keeps_derive_bases (qubits : Nat) (device : Device) :
    Keeps source (deriveBases qubits device) (Derives source qubits device) := by
  refine .of_bind (keeps_read _) fun text given => ?_
  refine .of_bind (.of_except fun bases parsed => parsed) fun bases parsed => ?_
  refine .of_bind (.of_except fun _ _ => trivial) fun _ (_ : True) => ?_
  refine .of_bind (.of_except fun _ _ => trivial) fun _ (_ : True) => ?_
  have each : ∀ basis, Keeps source (do
      readout (← ofExcept (Stabilizer.ofPaulis basis)) device) (ReadsOut basis) := by
    intro basis
    refine .of_bind (.of_except fun stabilizer made => made) fun stabilizer made => ?_
    refine (keeps_readout stabilizer device).weaken fun circuit found => ?_
    obtain ⟨synthesis, grounded, same⟩ := found
    exact ⟨stabilizer, synthesis, made, grounded, same⟩
  exact .of_bind (.of_mapM each) fun circuits read =>
    .of_pure ⟨text, bases, circuits, given, parsed, read, rfl⟩

/-- The outcome of reading depends on the source only. -/
theorem fst_perform_read {store : Store} (faithful : Faithful source store) (file : String) :
    (perform (read file) store).1 = source.read file := by
  change (perform (ofExcept (store.source.read file)) _).1 = _
  rw [faithful.source_eq]
  cases source.read file <;> rfl

theorem keeps_read? (file : String) :
    Keeps source (read? file) fun found =>
      match found with
      | some text => source.read file = .ok text
      | none => ∃ missing, source.read file = .error (.missingTable missing) := by
  refine .of_try_catch (.of_bind (keeps_read file) fun _ given => .of_pure given) ?_
  intro store fault faithful failed
  have cause : source.read file = .error fault := by
    rw [← fst_perform_read faithful file]
    change (perform (read file >>= fun text => pure (some text)) store).1 = _ at failed
    rw [perform_bind] at failed
    match outcome : perform (read file) store with
    | (.ok text, left) =>
        rw [outcome] at failed
        cases failed
    | (.error other, left) =>
        rw [outcome] at failed
        obtain rfl : other = fault := Except.error.inj failed
        rfl
  split
  · exact .of_pure ⟨_, cause⟩
  · exact .of_throw

theorem keeps_basis_table (qubits : Nat) (device : Device) :
    Keeps source (basisTable qubits device) (ReadsBases source qubits device) := by
  refine .of_bind (.of_except fun _ _ => trivial) fun _ (_ : True) => ?_
  split
  case isFalse => exact .of_throw
  refine .of_bind .of_get fun store faithful => ?_
  split
  next table found =>
      obtain ⟨before, later, listed, _⟩ := List.lookup_eq_some_iff.1 found
      exact .of_pure (faithful.bases ((qubits, device), table) (by simp [listed]))
  next =>
      have keeps : ∀ table, ReadsBases source qubits device table → Keeps source (do
          modify fun store => { store with bases := ((qubits, device), table) :: store.bases }
          return table) (ReadsBases source qubits device) := by
        intro table reads
        refine .of_bind (.of_modify fun other otherFaithful =>
          ⟨otherFaithful.source_eq, otherFaithful.tables, ?_⟩) fun _ _ => .of_pure reads
        intro entry member
        rcases List.mem_cons.1 member with rfl | earlier
        · exact reads
        · exact otherFaithful.bases entry earlier
      refine .of_bind (keeps_read? _) fun found given => ?_
      cases found with
      | some text =>
          exact .of_bind (.of_except fun table parsed => parsed) fun table parsed =>
            keeps table (.inl ⟨text, given, parsed⟩)
      | none =>
          exact .of_bind (keeps_derive_bases qubits device) fun table derived =>
            keeps table (.inr ⟨given, derived⟩)

def tableOf (source : Source) (qubits : Nat) (device : Device) : Except Fault Table := do
  device.checkSupported qubits
  let text ← source.read (tableName qubits device)
  Table.parse (tableName qubits device) qubits device text

def synthesisOf (source : Source) (stabilizer : Stabilizer) (device : Device) :
    Except Fault Synthesis := do
  device.checkSupported stabilizer.qubits
  let localClass ← classify stabilizer
  let table ← tableOf source stabilizer.qubits device
  let template ← table.get localClass.id
  template.prepare localClass stabilizer

theorem table_of_reads {qubits : Nat} {device : Device} {found : Table}
    (supported : device.checkSupported qubits = .ok ())
    (reads : Reads source qubits device found) : tableOf source qubits device = .ok found := by
  obtain ⟨text, given, parsed⟩ := reads
  rw [tableOf, supported]
  change (source.read (tableName qubits device) >>= _) = _
  rw [given]
  exact parsed

theorem range_of_supports {device : Device} {qubits : Nat}
    (supported : device.supports qubits = true) : 2 ≤ qubits ∧ qubits ≤ 6 := by
  have each : ∀ pair ∈ Device.supported, 2 ≤ pair.1 ∧ pair.1 ≤ 6 := by decide
  exact each (qubits, device) (List.contains_iff_mem.1 supported)

theorem check_supported_of_supports {device : Device} {qubits : Nat}
    (supported : device.supports qubits = true) : device.checkSupported qubits = .ok () := by
  have range : Device.minQubits ≤ qubits ∧ qubits ≤ Device.maxQubits := range_of_supports supported
  rw [Device.checkSupported, Device.checkQubits, if_pos range]
  exact if_pos supported

theorem range_of_check_supported {device : Device} {qubits : Nat}
    (supported : device.checkSupported qubits = .ok ()) : 2 ≤ qubits ∧ qubits ≤ 6 := by
  obtain ⟨_, checked, -⟩ := exists_of_bind_ok supported
  rw [Device.checkQubits] at checked
  split at checked
  next range => exact range
  next => cases checked

theorem synthesis_of_table {stabilizer : Stabilizer} {device : Device} {found : Table}
    {localClass : LocalClass} {template : Template}
    (supported : device.checkSupported stabilizer.qubits = .ok ())
    (classified : classify stabilizer = .ok localClass)
    (read : tableOf source stabilizer.qubits device = .ok found)
    (listed : found.get localClass.id = .ok template) :
    synthesisOf source stabilizer device = template.prepare localClass stabilizer := by
  rw [synthesisOf, supported, classified, read]
  change (found.get localClass.id >>= _) = _
  rw [listed]
  rfl

/-- If each step has an outcome without a store, so have both together. -/
theorem fst_perform_bind {α β : Type} {action : WithStore α} {next : α → WithStore β}
    {store : Store} {outcome : Except Fault α} {later : α → Except Fault β}
    (first : (perform action store).1 = outcome)
    (rest : ∀ value left, perform action store = (.ok value, left) →
      (perform (next value) left).1 = later value) :
    (perform (action >>= next) store).1 = outcome >>= later := by
  subst first
  rw [perform_bind]
  cases performed : perform action store with
  | mk outcome left =>
      cases outcome with
      | error fault => rfl
      | ok value => exact rest value left performed

theorem fst_perform_of_except_bind {α β : Type} {outcome : Except Fault α}
    {next : α → WithStore β} {store : Store} {later : α → Except Fault β}
    (rest : ∀ value, outcome = .ok value → (perform (next value) store).1 = later value) :
    (perform (ofExcept outcome >>= next) store).1 = outcome >>= later := by
  cases outcome with
  | error fault => rfl
  | ok value => exact rest value rfl

theorem fst_perform_table {store : Store} (faithful : Faithful source store) (qubits : Nat)
    (device : Device) :
    (perform (table qubits device) store).1 = tableOf source qubits device := by
  rw [table, tableOf]
  refine fst_perform_of_except_bind fun _ supported => ?_
  have current : perform (get : WithStore Store) store = (.ok store, store) := rfl
  rw [perform_bind_of_ok current]
  split
  next kept listed =>
      obtain ⟨before, later, entries, _⟩ := List.lookup_eq_some_iff.1 listed
      have reads := faithful.tables ((qubits, device), kept) (by simp [entries])
      have found := table_of_reads supported reads
      rw [tableOf, supported] at found
      exact found.symm
  next =>
      refine fst_perform_bind ?_ fun text left _ => ?_
      · exact fst_perform_read faithful _
      · cases Table.parse (tableName qubits device) qubits device text <;> rfl

theorem fst_perform_synthesize {store : Store} (faithful : Faithful source store)
    (stabilizer : Stabilizer) (device : Device) :
    (perform (synthesize stabilizer device) store).1 = synthesisOf source stabilizer device := by
  rw [synthesize, synthesisOf]
  refine fst_perform_of_except_bind fun _ _ => fst_perform_of_except_bind fun localClass _ => ?_
  have looked : (perform (lookup stabilizer.qubits device localClass.id) store).1 =
      tableOf source stabilizer.qubits device >>= fun table => table.get localClass.id := by
    refine fst_perform_bind (fst_perform_table faithful _ _) fun table left _ => ?_
    cases table.get localClass.id <;> rfl
  rw [← bind_assoc]
  refine fst_perform_bind looked fun template left _ => ?_
  cases template.prepare localClass stabilizer <;> rfl

theorem fst_perform_preparation {store : Store} (faithful : Faithful source store)
    (stabilizer : Stabilizer) (device : Device) :
    (perform (preparation stabilizer device) store).1 =
      (synthesisOf source stabilizer device).map Synthesis.circuit := by
  have performed : (perform (preparation stabilizer device) store).1 =
      synthesisOf source stabilizer device >>= fun synthesis => .ok synthesis.circuit :=
    fst_perform_bind (fst_perform_synthesize faithful stabilizer device) fun _ _ _ => rfl
  rw [performed]
  cases synthesisOf source stabilizer device <;> rfl

theorem fst_perform_readout {store : Store} (faithful : Faithful source store)
    (stabilizer : Stabilizer) (device : Device) :
    (perform (readout stabilizer device) store).1 =
      (synthesisOf source stabilizer device).map fun synthesis => synthesis.circuit.inverse := by
  have performed : (perform (readout stabilizer device) store).1 =
      (synthesisOf source stabilizer device).map Synthesis.circuit >>= fun circuit =>
        .ok circuit.inverse :=
    fst_perform_bind (fst_perform_preparation faithful stabilizer device) fun _ _ _ => rfl
  rw [performed]
  cases synthesisOf source stabilizer device <;> rfl

theorem fst_perform_compress {store : Store} (faithful : Faithful source store)
    (circuit : Circuit) (device : Device) :
    (perform (compress circuit device) store).1 =
      Stabilizer.ofCircuit circuit >>= fun stabilizer =>
        (synthesisOf source stabilizer device).map Synthesis.circuit :=
  fst_perform_of_except_bind fun stabilizer _ => fst_perform_preparation faithful stabilizer device

inductive Request where
  | template (qubits : Nat) (device : Device) (id : Nat)
  | synthesis (stabilizer : Stabilizer) (device : Device)
  | readout (stabilizer : Stabilizer) (device : Device)
  | compression (circuit : Circuit) (device : Device)
  | statistics (qubits : Nat) (device : Device)
  | bases (qubits : Nat) (device : Device)

def Request.leave (store : Store) : Request → Store
  | .template qubits device id => (perform (lookup qubits device id) store).2
  | .synthesis stabilizer device => (perform (synthesize stabilizer device) store).2
  | .readout stabilizer device => (perform (Store.readout stabilizer device) store).2
  | .compression circuit device => (perform (compress circuit device) store).2
  | .statistics qubits device => (perform (Store.statistics qubits device) store).2
  | .bases qubits device => (perform (basisTable qubits device) store).2

def after (source : Source) (requests : List Request) : Store :=
  requests.foldl Request.leave (ofSource source)

theorem faithful_leave {store : Store} (faithful : Faithful source store) (request : Request) :
    Faithful source (request.leave store) := by
  cases request with
  | template qubits device id => exact (keeps_lookup qubits device id store faithful).1
  | synthesis stabilizer device => exact (keeps_synthesize stabilizer device store faithful).1
  | readout stabilizer device => exact (keeps_readout stabilizer device store faithful).1
  | compression circuit device => exact (keeps_compress circuit device store faithful).1
  | statistics qubits device =>
      have keeps : Keeps source (Store.statistics qubits device) fun _ => True :=
        .of_bind (keeps_table qubits device) fun _ _ => .of_pure trivial
      exact (keeps store faithful).1
  | bases qubits device => exact (keeps_basis_table qubits device store faithful).1

/-- A store is faithful after any requests. -/
theorem faithful_after (source : Source) (requests : List Request) :
    Faithful source (after source requests) := by
  have run : ∀ store, Faithful source store →
      Faithful source (requests.foldl Request.leave store) := by
    induction requests with
    | nil => exact fun _ faithful => faithful
    | cons request requests ih => exact fun _ faithful => ih _ (faithful_leave faithful request)
  refine run _ ⟨rfl, ?_, ?_⟩
  · intro entry member
    cases member
  · intro entry member
    cases member

end Store

end StabilizerPrep
