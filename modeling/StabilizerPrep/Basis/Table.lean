import StabilizerPrep.Circuit.Metrics
import StabilizerPrep.Stabilizer.Basic
import StabilizerPrep.Template.Statistics

/-!
# Mutually unbiased bases

A complete set of mutually unbiased bases on `n` qubits consists of `2^n + 1`
stabilizer groups that share only the identity. A table lists the generators
of each basis with a circuit that reads the basis out, below a header with the
total cost, the largest cost and the largest depth:

`totalCost:maxCost:maxDepth`
`XI,IX:h0 h1`

Where there are no circuits yet, a table of bases lists the generators alone.
-/

namespace StabilizerPrep

set_option autoImplicit false

structure BasisTable where
  qubits : Nat
  device : Device
  totalCost : Nat
  maxCost : Nat
  maxDepth : Nat
  bases : List (List Pauli)
  circuits : List Circuit
  deriving DecidableEq, Repr

structure BasisInfo where
  circuits : Nat
  maxCount : Nat
  maxDepth : Nat
  average : Average
  deriving DecidableEq, Repr

namespace BasisTable

def maxQubits : Nat :=
  6

/-- Whether there are bases for a device: for every supported one below six
qubits, and for the fully connected one on six. -/
def available (qubits : Nat) (device : Device) : Bool :=
  device.supports qubits && (qubits < maxQubits || device == .all)

def expectedCount (qubits : Nat) : Nat :=
  2 ^ qubits + 1

def checkSize (qubits : Nat) (device : Device) : Except Fault Unit :=
  if maxQubits < qubits then .error (.basesUnavailable qubits device) else .ok ()

def checkCount (name : String) (qubits found : Nat) : Except Fault Unit :=
  if found = expectedCount qubits then .ok ()
  else .error (.malformedTable name 0 (.basisCount (expectedCount qubits) found))

def readPauli (text : List Char) : Except TableFault Pauli :=
  let trimmed := Text.trim text
  match Pauli.read trimmed with
  | .ok pauli => .ok pauli
  | .error fault => .error (.pauli (.ofList trimmed) fault)

def readBasis (qubits : Nat) (text : List Char) : Except TableFault (List Pauli) := do
  let basis ← (Text.split ',' text).mapM readPauli
  if basis.length = qubits ∧ basis.all (·.qubits == qubits) then .ok basis
  else .error (.basisShape qubits)

def readBases (name : String) (qubits : Nat) (letters : List Char) :
    Except Fault (List (List Pauli)) := do
  let bases ← Table.readRows name (readBasis qubits) (Text.numberedLines letters)
  checkCount name qubits bases.length
  .ok bases

/-- Whether the number of bases in a complete set is a number of 64 bits. -/
def isCountable (qubits : Nat) : Bool :=
  qubits < 64

/-- Reads a table of bases without circuits. Refused if its lines are right but
the number of bases it should have cannot be written down. -/
def readBases? (name : String) (qubits : Nat) (letters : List Char) :
    Option (Except Fault (List (List Pauli))) :=
  if isCountable qubits then some (readBases name qubits letters)
  else
    match Table.readRows name (readBasis qubits) (Text.numberedLines letters) with
    | .error fault => some (.error fault)
    | .ok _ => none

def parseBases (name : String) (qubits : Nat) (text : String) :
    Except Fault (List (List Pauli)) :=
  readBases name qubits text.toList

def readHeader (line : List Char) : Except TableFault (Nat × Nat × Nat) := do
  let numbers ← (Text.split ':' line).mapM fun field =>
    match Text.readNumber Table.countBound field with
    | .ok number => .ok number
    | .error fault => .error (TableFault.headerNumber fault)
  match numbers with
  | [totalCost, maxCost, maxDepth] => .ok (totalCost, maxCost, maxDepth)
  | _ => .error (.headerFields numbers.length)

def readRow (qubits : Nat) (line : List Char) :
    Except TableFault (List Pauli × Circuit) :=
  match Text.splitFirst? ':' line with
  | none => .error .noSeparator
  | some (paulis, spec) => do
      let basis ← readBasis qubits paulis
      match Circuit.read qubits spec with
      | .ok circuit => .ok (basis, circuit)
      | .error fault => .error (.circuit fault)

def read (name : String) (qubits : Nat) (device : Device) (letters : List Char) :
    Except Fault BasisTable := do
  checkSize qubits device
  match Text.numberedLines letters with
  | [] => .error (.malformedTable name 1 .noHeader)
  | (number, line) :: lines =>
      match readHeader line with
      | .error fault => .error (.malformedTable name number fault)
      | .ok (totalCost, maxCost, maxDepth) =>
          let rows ← Table.readRows name (readRow qubits) lines
          checkCount name qubits rows.length
          .ok
            { qubits := qubits
              device := device
              totalCost := totalCost
              maxCost := maxCost
              maxDepth := maxDepth
              bases := rows.map (·.1)
              circuits := rows.map (·.2) }

def parse (name : String) (qubits : Nat) (device : Device) (text : String) :
    Except Fault BasisTable :=
  read name qubits device text.toList

/-- The table of the given bases and circuits, with the header computed from
the circuits. -/
def ofCircuits (qubits : Nat) (device : Device) (bases : List (List Pauli))
    (circuits : List Circuit) : BasisTable :=
  let costs := circuits.map Circuit.twoQubitCount
  { qubits := qubits
    device := device
    totalCost := costs.sum
    maxCost := costs.foldl max 0
    maxDepth := (circuits.map Circuit.twoQubitDepth).foldl max 0
    bases := bases
    circuits := circuits }

def ofBases {m : Type → Type} [Monad m] [MonadExceptOf Fault m] (qubits : Nat)
    (device : Device) (bases : List (List Pauli)) (readout : Stabilizer → m Circuit) :
    m BasisTable := do
  ofExcept (checkSize qubits device)
  ofExcept (checkCount s!"mub{qubits}-{device.name}" qubits bases.length)
  let circuits ← bases.mapM fun basis => do
    readout (← ofExcept (Stabilizer.ofPaulis basis))
  return ofCircuits qubits device bases circuits

def stabilizer (table : BasisTable) (index : Nat) : Except Fault Stabilizer :=
  match table.bases[index]? with
  | none => .error (.dimensionMismatch .basisIndex table.bases.length index)
  | some basis => Stabilizer.ofPaulis basis

def basisTexts (table : BasisTable) : List (List String) :=
  table.bases.map fun basis => basis.map fun pauli => .ofList pauli.letters

def info (table : BasisTable) : BasisInfo where
  circuits := table.circuits.length
  maxCount := table.maxCost
  maxDepth := table.maxDepth
  average := ⟨table.totalCost, max table.circuits.length 1⟩

end BasisTable

end StabilizerPrep
