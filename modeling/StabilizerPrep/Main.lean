import StabilizerPrep.Bundled.Files
import StabilizerPrep.CommandLine.Run

/-!
# The program

Reads the arguments, the environment and the table files of a folder, carries
out the command and writes its outcome.
-/

namespace StabilizerPrep.CommandLine

set_option autoImplicit false

def tableFiles : List String :=
  Device.supported.flatMap fun (qubits, device) =>
    [tableName qubits device, basisTableName qubits device, basisListName qubits device]

/-- The fault with a number of the system, which may come negated. The reason
serves where the number is not known. -/
def systemFault (reason : String) (number : UInt32) : ReadFault :=
  match (min number (0 - number)).toNat with
  | 13 => .refused "Permission denied" 13
  | 20 => .notFolder
  | 21 => .isFolder
  | 36 => .nameTooLong
  | known => .refused reason known

def readFault : IO.Error → ReadFault
  | .noFileOrDirectory .. => .missing
  | .inappropriateType _ number reason
  | .permissionDenied _ number reason
  | .invalidArgument _ number reason
  | .resourceExhausted _ number reason => systemFault reason number
  | .otherError number reason => systemFault reason number
  | other => systemFault other.toString 5

def readContent (path : String) : IO (Except ReadFault ByteArray) := do
  try
    return .ok (← IO.FS.readBinFile path)
  catch error => return .error (readFault error)

def readFolder (folder : String) : IO Source := do
  let contents ← tableFiles.mapM fun file => do
    let path := joinPath folder file
    return (path, ← readContent path)
  return .directory folder fun path => (contents.lookup path).getD (.error .missing)

def readSource : Option String → IO Source
  | none => return .bundled
  | some folder => readFolder folder

def carryOut (arguments : List String) : IO Outcome := do
  match parse (← IO.getEnv "HTSTAB_DATA_DIR") arguments with
  | .error stop => return .ofStop stop
  | .ok request =>
      let source ← readSource request.dataDir
      let freshSeed ← IO.rand 0 (2 ^ 64 - 1)
      return request.command.run source freshSeed

end StabilizerPrep.CommandLine

def main (arguments : List String) : IO UInt32 := do
  let outcome ← StabilizerPrep.CommandLine.carryOut arguments
  IO.print outcome.output
  IO.eprint outcome.errors
  return outcome.status.toUInt32
