import StabilizerPrep.CommandLine.Arguments
import StabilizerPrep.Report.Circuit
import StabilizerPrep.Text.Number

/-!
# Commands

What the arguments ask for. Names of devices and formats are kept as they are
given, because a wrong one is reported when the command is carried out and not
as a wrong use of the program. Numbers are read here.
-/

namespace StabilizerPrep.CommandLine

set_option autoImplicit false

inductive Command where
  /-- A circuit for a stabilizer. -/
  | circuit (direction : Direction) (paulis : List String) (device format : String)
  /-- A circuit for the state that another circuit prepares. -/
  | compress (spec : String) (qubits : Nat) (device format : String)
  /-- The class of a stabilizer. -/
  | classify (paulis : List String) (format : String)
  /-- The statistics of tables. -/
  | statistics (qubits : Option Nat) (device : Option String) (format : String)
  /-- The mutually unbiased bases of a device. -/
  | bases (qubits : Nat) (device format : String)
  /-- A random stabilizer. -/
  | sample (qubits : Nat) (device : String) (seed : Option Nat) (format : String)
  /-- The supported devices. -/
  | devices
  /-- What this program is. -/
  | version
  deriving DecidableEq, Repr

/-- A command, and the folder that it takes its tables from instead of the
bundled ones. -/
structure Request where
  dataDir : Option String
  command : Command
  deriving DecidableEq, Repr

inductive Verb where
  | prepare
  | readout
  | compress
  | classify
  | stats
  | mub
  | sample
  | connectivities
  | version
  deriving DecidableEq, Repr

namespace Verb

def every : List Verb :=
  [.prepare, .readout, .compress, .classify, .stats, .mub, .sample, .connectivities, .version]

def name : Verb → String
  | .prepare => "prepare"
  | .readout => "readout"
  | .compress => "compress"
  | .classify => "classify"
  | .stats => "stats"
  | .mub => "mub"
  | .sample => "sample"
  | .connectivities => "connectivities"
  | .version => "version"

def ofName? (name : String) : Option Verb :=
  every.find? fun verb => verb.name == name

def settings : Verb → List Setting
  | .prepare | .readout => [.connectivity, .format]
  | .compress | .stats | .mub => [.qubits, .connectivity, .format]
  | .classify => [.format]
  | .sample => [.qubits, .connectivity, .seed, .format]
  | .connectivities | .version => []

def flags (verb : Verb) : List Flag :=
  .verbose :: .setting .dataDir :: verb.settings.map .setting

end Verb

def readLongNumber? (text : String) : Option Nat :=
  (Text.readNumber (2 ^ 64) text.toList).toOption

/-- A number of 32 bits. A minus sign is admitted in front of zero. -/
def readShortNumber? (text : String) : Option Nat :=
  match text.toList with
  | '-' :: digits => if !digits.isEmpty && digits.all (· == '0') then some 0 else none
  | letters => (Text.readNumber (2 ^ 32) letters).toOption

def optional? {α : Type} (read : String → Option α) (arguments : Arguments)
    (setting : Setting) : Option (Option α) :=
  match arguments.value? setting with
  | none => some none
  | some text => (read text).map some

def required? {α : Type} (read : String → Option α) (arguments : Arguments)
    (setting : Setting) : Option α := do
  read (← arguments.value? setting)

/-- The command of a verb and its arguments, unless a value is missing or is
no number, or there are too few or too many words. -/
def command? (verb : Verb) (arguments : Arguments) : Option Command :=
  let device := (arguments.value? .connectivity).getD "all"
  let format := (arguments.value? .format).getD "text"
  match verb, arguments.words with
  | .prepare, paulis@(_ :: _) => some (.circuit .prepare paulis device format)
  | .readout, paulis@(_ :: _) => some (.circuit .readout paulis device format)
  | .classify, paulis@(_ :: _) => some (.classify paulis format)
  | .compress, [spec] => do
      some (.compress spec (← required? readShortNumber? arguments .qubits) device format)
  | .stats, [] => do
      some (.statistics (← optional? readLongNumber? arguments .qubits)
        (arguments.value? .connectivity) format)
  | .mub, [] => do
      some (.bases (← required? readLongNumber? arguments .qubits) device format)
  | .sample, [] => do
      some (.sample (← required? readLongNumber? arguments .qubits) device
        (← optional? readLongNumber? arguments .seed) format)
  | .connectivities, [] => some .devices
  | .version, [] => some .version
  | _, _ => none

/-- Whether the fallback for the folder of the tables may be used wherever it
is asked for: in front of the verb and behind it, if no folder stands there. -/
def admitsFallback (fallback : Option String) (folders : List (Option String)) : Bool :=
  folders.all Option.isSome || fallback.all (Setting.dataDir.admits ·)

/-- What the arguments ask for. The folder of the tables that stands behind the
verb goes before the one in front of it, and that before the fallback, which
comes from the environment. -/
def parse (fallback : Option String) (arguments : List String) : Except Stop Request := do
  let (leading, name, rest) ←
    readLeading [.verbose, .version, .setting .dataDir] .empty arguments
  match Verb.ofName? name with
  | none => .error .usage
  | some verb =>
      let own ← readArguments verb.flags .empty rest
      let folders := [own.value? .dataDir, leading.value? .dataDir]
      match command? verb own with
      | some command =>
          if admitsFallback fallback folders then
            .ok ⟨(folders ++ [fallback]).findSome? id, command⟩
          else .error .usage
      | none => .error .usage

end StabilizerPrep.CommandLine
