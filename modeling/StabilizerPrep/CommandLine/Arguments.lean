/-!
# Arguments

The arguments of a command are options and words. A long option is two dashes
and a name, a short one is a dash and a letter, and several short ones may
share a dash. A switch stands alone. A setting takes a value: what follows in
the same argument, or else the next argument, which must not look like an
option. Two lone dashes make words of all arguments behind them. Arguments are
read from left to right, and the first one that is wrong decides.
-/

namespace StabilizerPrep.CommandLine

set_option autoImplicit false

inductive Setting where
  | dataDir
  | connectivity
  | format
  | qubits
  | seed
  deriving DecidableEq, Repr

inductive Flag where
  | verbose
  | version
  | setting (setting : Setting)
  deriving DecidableEq, Repr

namespace Flag

def every : List Flag :=
  [.verbose, .version, .setting .dataDir, .setting .connectivity, .setting .format,
    .setting .qubits, .setting .seed]

def name : Flag → String
  | .verbose => "verbose"
  | .version => "version"
  | .setting .dataDir => "data-dir"
  | .setting .connectivity => "connectivity"
  | .setting .format => "format"
  | .setting .qubits => "qubits"
  | .setting .seed => "seed"

def letter? : Flag → Option Char
  | .verbose => some 'v'
  | .version => some 'V'
  | .setting .connectivity => some 'c'
  | .setting .format => some 'f'
  | .setting .qubits => some 'n'
  | .setting .dataDir | .setting .seed => none

end Flag

def Setting.admits : Setting → String → Bool
  | .dataDir, value => !value.isEmpty
  | _, _ => true

/-- Why arguments are not carried out: they are wrong, or they ask for the
version only. -/
inductive Stop where
  | usage
  | version
  deriving DecidableEq, Repr

structure Arguments where
  settings : List (Setting × String)
  words : List String
  deriving DecidableEq, Repr

namespace Arguments

def empty : Arguments :=
  ⟨[], []⟩

def value? (arguments : Arguments) (setting : Setting) : Option String :=
  arguments.settings.lookup setting

def addSetting (arguments : Arguments) (setting : Setting) (value : String) :
    Except Stop Arguments :=
  if (arguments.value? setting).isSome || !setting.admits value then .error .usage
  else .ok { arguments with settings := arguments.settings ++ [(setting, value)] }

def addWords (arguments : Arguments) (words : List String) : Arguments :=
  { arguments with words := arguments.words ++ words }

end Arguments

/-- Whether an argument stands for an option. A lone dash is a word. -/
def looksLikeOption (argument : String) : Bool :=
  argument.startsWith "-" && argument != "-"

/-- What an argument that looks like an option asks for: nothing more, or a
value for a setting, which may be attached. -/
inductive Demand where
  | done
  | value (setting : Setting) (attached : Option String)
  deriving DecidableEq, Repr

/-- The name and the attached value of a long option, split at the first
equals sign. -/
def splitValue (text : List Char) : String × Option String :=
  let name := text.takeWhile (· != '=')
  match text.dropWhile (· != '=') with
  | [] => (.ofList name, none)
  | _ :: value => (.ofList name, some (.ofList value))

def readLong (known : List Flag) (text : List Char) : Except Stop Demand :=
  let (name, attached) := splitValue text
  match known.find? (fun flag => flag.name == name), attached with
  | none, _ => .error .usage
  | some (.setting setting), attached => .ok (.value setting attached)
  | some _, some _ => .error .usage
  | some .version, none => .error .version
  | some .verbose, none => .ok .done

/-- Reads short options without their dash. A setting takes all letters behind
it as its value, apart from an equals sign in front of them. -/
def readShort (known : List Flag) : List Char → Except Stop Demand
  | [] => .ok .done
  | letter :: rest =>
      match known.find? fun flag => flag.letter? == some letter with
      | none => .error .usage
      | some .version => .error .version
      | some .verbose => readShort known rest
      | some (.setting setting) =>
          match rest with
          | [] => .ok (.value setting none)
          | '=' :: value | value => .ok (.value setting (some (.ofList value)))

def readOption (known : List Flag) (argument : String) : Except Stop Demand :=
  match argument.toList with
  | '-' :: '-' :: text => readLong known text
  | '-' :: text => readShort known text
  | _ => .error .usage

/-- Reads the arguments of a command that knows the given options, behind
those that are found already. -/
def readArguments (known : List Flag) :
    Arguments → List String → Except Stop Arguments
  | found, [] => .ok found
  | found, argument :: rest =>
      if argument = "--" then .ok (found.addWords rest)
      else if looksLikeOption argument then
        match readOption known argument with
        | .error stop => .error stop
        | .ok .done => readArguments known found rest
        | .ok (.value setting (some value)) => do
            readArguments known (← found.addSetting setting value) rest
        | .ok (.value setting none) =>
            match rest with
            | [] => .error .usage
            | value :: rest =>
                if looksLikeOption value then .error .usage
                else do readArguments known (← found.addSetting setting value) rest
      else readArguments known (found.addWords [argument]) rest

/-- Reads the options in front of the first word, behind those that are found
already. The result is the options, that word, and the arguments behind it.
What is wrong in front of the version option goes before it. -/
def readLeading (known : List Flag) :
    Arguments → List String → Except Stop (Arguments × String × List String)
  | _, [] => .error .usage
  | found, argument :: rest =>
      if argument = "--" then .error .usage
      else if looksLikeOption argument then
        match readOption known argument with
        | .error stop => .error stop
        | .ok .done => readLeading known found rest
        | .ok (.value setting (some value)) => do
            readLeading known (← found.addSetting setting value) rest
        | .ok (.value setting none) =>
            match rest with
            | [] => .error .usage
            | value :: rest =>
                if looksLikeOption value then .error .usage
                else do readLeading known (← found.addSetting setting value) rest
      else .ok (found, argument, rest)

end StabilizerPrep.CommandLine
