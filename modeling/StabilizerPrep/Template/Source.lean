import StabilizerPrep.Fault

/-!
# Sources of tables

Tables are read by file name, from a list of texts in memory or from a folder.
What a folder holds is only known by what opening a path in it gives, and the
bytes found there need not be a text.
-/

namespace StabilizerPrep

set_option autoImplicit false

structure Source where
  name : String
  read : String → Except Fault String

def readText (content : ByteArray) : Except ReadFault String :=
  match String.fromUTF8? content with
  | some text => .ok text
  | none => .error .notText

def joinPath (path file : String) : String :=
  if path.isEmpty || path.endsWith "/" then path ++ file else path ++ "/" ++ file

namespace Source

def memory (files : List (String × String)) : Source where
  name := "memory"
  read file :=
    match files.lookup file with
    | some text => .ok text
    | none => .error (.missingTable file)

/-- The files of the folder with the given path, where `contents` opens a path.
Faults name the whole path. -/
def directory (path : String) (contents : String → Except ReadFault ByteArray) :
    Source where
  name := path
  read file :=
    let whole := joinPath path file
    match contents whole >>= readText with
    | .ok text => .ok text
    | .error .missing => .error (.missingTable whole)
    | .error fault => .error (.unreadableTable whole fault)

end Source

end StabilizerPrep
