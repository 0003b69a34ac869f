import StabilizerPrep.Basis.Table
import StabilizerPrep.Synthesis
import StabilizerPrep.Template.Source

/-!
# Stores

A store reads tables from a source when they are first needed and keeps those
that could be read. A table that could not be read is asked for again the next
time. The store also remembers which files it has asked its source for.
-/

namespace StabilizerPrep

set_option autoImplicit false

abbrev Key := Nat × Device

structure Store where
  source : Source
  tables : List (Key × Table)
  bases : List (Key × BasisTable)
  reads : List String

/-- A computation that uses a store and may fail. What the store has learnt
before a failure is kept. -/
abbrev WithStore := ExceptT Fault (StateM Store)

def tableName (qubits : Nat) (device : Device) : String :=
  s!"stabilizer{qubits}-{device.name}.txt"

def basisTableName (qubits : Nat) (device : Device) : String :=
  s!"mub{qubits}-{device.name}.txt"

def basisListName (qubits : Nat) (device : Device) : String :=
  s!"mub{qubits}-{device.name}-bases.txt"

namespace Store

def ofSource (source : Source) : Store :=
  ⟨source, [], [], []⟩

def read (file : String) : WithStore String := do
  modify fun store => { store with reads := store.reads ++ [file] }
  ofExcept ((← get).source.read file)

def table (qubits : Nat) (device : Device) : WithStore Table := do
  ofExcept (device.checkSupported qubits)
  match (← get).tables.lookup (qubits, device) with
  | some table => return table
  | none =>
      let file := tableName qubits device
      let table ← ofExcept (Table.parse file qubits device (← read file))
      modify fun store =>
        { store with tables := ((qubits, device), table) :: store.tables }
      return table

def lookup (qubits : Nat) (device : Device) (id : Nat) : WithStore Template := do
  ofExcept ((← table qubits device).get id)

def synthesize (stabilizer : Stabilizer) (device : Device) : WithStore Synthesis := do
  ofExcept (device.checkSupported stabilizer.qubits)
  let localClass ← ofExcept (classify stabilizer)
  let template ← lookup stabilizer.qubits device localClass.id
  ofExcept (template.prepare localClass stabilizer)

def preparation (stabilizer : Stabilizer) (device : Device) : WithStore Circuit := do
  return (← synthesize stabilizer device).circuit

def readout (stabilizer : Stabilizer) (device : Device) : WithStore Circuit := do
  return (← preparation stabilizer device).inverse

def compress (circuit : Circuit) (device : Device) : WithStore Circuit := do
  preparation (← ofExcept (Stabilizer.ofCircuit circuit)) device

def statistics (qubits : Nat) (device : Device) : WithStore Statistics := do
  return (← table qubits device).statistics

/-- The bases of a device, with readout circuits synthesized from the list of
bases. -/
def deriveBases (qubits : Nat) (device : Device) : WithStore BasisTable := do
  let file := basisListName qubits device
  let bases ← ofExcept (BasisTable.parseBases file qubits (← read file))
  BasisTable.ofBases qubits device bases fun basis => readout basis device

def read? (file : String) : WithStore (Option String) := do
  tryCatch (some <$> read file) fun
    | .missingTable _ => return none
    | fault => throw fault

/-- The bases of a device. If the source has no table with circuits, they are
synthesized. -/
def basisTable (qubits : Nat) (device : Device) : WithStore BasisTable := do
  ofExcept (device.checkSupported qubits)
  if BasisTable.available qubits device then
    match (← get).bases.lookup (qubits, device) with
    | some table => return table
    | none =>
        let file := basisTableName qubits device
        let table ← match ← read? file with
          | some text => ofExcept (BasisTable.parse file qubits device text)
          | none => deriveBases qubits device
        modify fun store =>
          { store with bases := ((qubits, device), table) :: store.bases }
        return table
  else throw (.basesUnavailable qubits device)

end Store

/-- Runs a computation on a fresh store. -/
def Source.run {α : Type} (source : Source) (action : WithStore α) : Except Fault α :=
  (action.run.run (.ofSource source)).1

end StabilizerPrep
