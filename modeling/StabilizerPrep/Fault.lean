import StabilizerPrep.Circuit.Fault
import StabilizerPrep.Device.Name
import StabilizerPrep.Text.Number

/-!
# What can go wrong

The causes for which the library refuses an input, the category each of them
belongs to, and the text that reports it.
-/

namespace StabilizerPrep

set_option autoImplicit false

inductive PauliFault where
  | empty
  | tooLong
  | unexpected (letter : Char)
  | notHermitian
  deriving DecidableEq, Repr

def PauliFault.message : PauliFault → String
  | .empty => "empty operator"
  | .tooLong => "too many qubits"
  | .unexpected letter => s!"unexpected character '{letter}'"
  | .notHermitian => "generator is not Hermitian"

inductive StabilizerFault where
  | noGenerators
  | notBinary
  | dependent (rank qubits : Nat)
  | notCommuting
  | selfProduct
  | productNotHermitian (target source : Nat)
  | unrecognized (qubits : Nat) (detail : String)
  deriving DecidableEq, Repr

def StabilizerFault.message : StabilizerFault → String
  | .noGenerators => "at least one generator is required"
  | .notBinary => "matrix entries must be 0 or 1"
  | .dependent rank qubits =>
      s!"generators are linearly dependent (rank {rank} of {qubits})"
  | .notCommuting => "generators do not commute"
  | .selfProduct => "cannot multiply a generator by itself"
  | .productNotHermitian target source =>
      s!"generators {target} and {source} do not commute"
  | .unrecognized qubits detail =>
      s!"unrecognized {qubits}-qubit entanglement structure ({detail})"

inductive Dimension where
  | generatorLength
  | xColumns
  | zRows
  | zColumns
  | signs
  | generatorIndex
  | targetQubits
  | basisIndex
  deriving DecidableEq, Repr

def Dimension.text : Dimension → String
  | .generatorLength => "generator length"
  | .xColumns => "R columns"
  | .zRows => "S rows"
  | .zColumns => "S columns"
  | .signs => "phase vector"
  | .generatorIndex => "generator index"
  | .targetQubits => "target qubit count"
  | .basisIndex => "basis index"

inductive TableFault where
  | fieldCount (found : Nat)
  | graphId (text : String)
  | graphIdTooLarge (id : Nat)
  | cost (text : String)
  | depth (text : String)
  | circuit (fault : CircuitFault)
  | rowCount (expected found : Nat)
  | noHeader
  | headerNumber (fault : Text.NumberFault)
  | headerFields (found : Nat)
  | noSeparator
  | pauli (text : String) (fault : PauliFault)
  | basisShape (qubits : Nat)
  | basisCount (expected found : Nat)
  deriving DecidableEq, Repr

def pauliMessage (text : String) (fault : PauliFault) : String :=
  s!"Invalid Pauli string '{text}': {fault.message}"

def TableFault.message : TableFault → String
  | .fieldCount found => s!"expected 4 fields, found {found}"
  | .graphId text => s!"invalid graph id '{text}'"
  | .graphIdTooLarge id => s!"graph id {id} too large"
  | .cost text => s!"invalid cost '{text}'"
  | .depth text => s!"invalid depth '{text}'"
  | .circuit fault => fault.message
  | .rowCount expected found => s!"expected {expected} rows, found {found}"
  | .noHeader => "missing header"
  | .headerNumber fault => s!"header: {fault.message}"
  | .headerFields found => s!"header needs 3 fields, found {found}"
  | .noSeparator => "expected 'paulis:gates'"
  | .pauli text fault => pauliMessage text fault
  | .basisShape qubits => s!"expected {qubits} Paulis on {qubits} qubits"
  | .basisCount expected found => s!"expected {expected} bases, found {found}"

inductive ReadFault where
  | missing
  /-- The system refuses for a reason that has a number. -/
  | refused (reason : String) (number : Nat)
  | notText
  deriving DecidableEq, Repr

namespace ReadFault

def notFolder : ReadFault :=
  .refused "Not a directory" 20

def isFolder : ReadFault :=
  .refused "Is a directory" 21

def nameTooLong : ReadFault :=
  .refused "File name too long" 36

def message : ReadFault → String
  | .missing => "No such file or directory (os error 2)"
  | .refused reason number => s!"{reason} (os error {number})"
  | .notText => "stream did not contain valid UTF-8"

end ReadFault

inductive Fault where
  | circuit (fault : CircuitFault)
  | unsupportedQubitCount (qubits : Nat)
  | tooManyQubits (qubits maximum : Nat)
  | graphTooLarge (vertices maximum : Nat)
  | tooFewVertices (family : String) (vertices minimum : Nat)
  | basesUnavailable (qubits : Nat) (device : Device)
  | unsupportedDevice (qubits : Nat) (device : Device)
  | unknownDevice (name : String)
  | invalidPauli (text : String) (fault : PauliFault)
  | dimensionMismatch (dimension : Dimension) (expected got : Nat)
  | invalidClassId (qubits id count : Nat)
  | invalidRoles (structureName roles : String)
  | invalidStabilizer (fault : StabilizerFault)
  | noLocalLayer (graphId : Nat)
  | differentGroup (generator : Nat)
  | missingTable (table : String)
  | unreadableTable (table : String) (fault : ReadFault)
  | malformedTable (table : String) (line : Nat) (fault : TableFault)
  deriving DecidableEq, Repr

inductive Category where
  | invalidInput
  | inconsistentState
  | configuration
  deriving DecidableEq, Repr

namespace Fault

def category : Fault → Category
  | .invalidStabilizer _ | .noLocalLayer _ | .differentGroup _ => .inconsistentState
  | .missingTable _ | .unreadableTable _ _ | .malformedTable _ _ _ => .configuration
  | _ => .invalidInput

def message : Fault → String
  | .circuit fault => s!"IR error: {fault.message}"
  | .unsupportedQubitCount qubits =>
      s!"{qubits} qubits are not supported (supported: 2 to 6)"
  | .tooManyQubits qubits maximum => s!"{qubits} qubits exceed the maximum of {maximum}"
  | .graphTooLarge vertices maximum =>
      s!"Graphs with {vertices} vertices do not fit a compressed id (maximum {maximum})"
  | .tooFewVertices family vertices minimum =>
      s!"{family} graphs need at least {minimum} vertices, got {vertices}"
  | .basesUnavailable qubits device =>
      s!"No mutually unbiased bases for '{device.name}' connectivity on {qubits} qubits"
  | .unsupportedDevice qubits device =>
      s!"Connectivity '{device.name}' is not supported for {qubits} qubits"
  | .unknownDevice name =>
      let names := ", ".intercalate (Device.every.map Device.name)
      s!"Unknown connectivity '{name}' (expected one of: {names})"
  | .invalidPauli text fault => pauliMessage text fault
  | .dimensionMismatch dimension expected got =>
      s!"Dimension mismatch in {dimension.text}: expected {expected}, got {got}"
  | .invalidClassId qubits id count =>
      s!"Class id {id} out of range for {qubits} qubits (count {count})"
  | .invalidRoles structureName roles =>
      s!"Vertex groups {roles} do not fit structure {structureName}"
  | .invalidStabilizer fault => s!"Invalid stabilizer: {fault.message}"
  | .noLocalLayer graphId =>
      s!"No local Clifford layer maps the stabilizer onto graph {graphId}"
  | .differentGroup generator =>
      s!"Generator {generator} is not an element of the target stabilizer group"
  | .missingTable table => s!"Template table '{table}' not found"
  | .unreadableTable table fault =>
      s!"Failed to read template table '{table}': {fault.message}"
  | .malformedTable table line fault =>
      s!"Malformed template table '{table}' at line {line}: {fault.message}"

def sources : Fault → List String
  | .circuit fault => [fault.message]
  | .unreadableTable _ fault => [fault.message]
  | _ => []

end Fault

def Device.ofName (name : String) : Except Fault Device :=
  match ofName? name with
  | some device => .ok device
  | none => .error (.unknownDevice name)

def liftCircuit {α : Type} : Except CircuitFault α → Except Fault α
  | .ok value => .ok value
  | .error fault => .error (.circuit fault)

end StabilizerPrep
