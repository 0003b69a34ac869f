import StabilizerPrep.Fault
import StabilizerPrep.Text.Pieces

/-!
# Files by path

A tree of files is a list of entries below one root, each with the names on
the way to it. A path is followed from name to name: every name but the last
has to be that of a folder, a lone dot stays where it is, and two dots go back
to the folder above. A path that leaves the root finds nothing.
-/

namespace StabilizerPrep

set_option autoImplicit false

inductive Entry where
  | folder
  | bytes (content : ByteArray)

structure Files where
  root : String
  entries : List (List String × Entry)

namespace Files

def names (path : String) : List String :=
  (Text.split '/' path.toList).map .ofList

/-- Whether a name stands for the folder in which it is looked up. -/
def isHere (name : String) : Bool :=
  name.isEmpty || name == "."

def ofPaths (root : String) (entries : List (String × Entry)) : Files where
  root := root
  entries := entries.map fun (path, entry) =>
    ((names path).filter fun name => !isHere name, entry)

/-- The entry at the end of the given names. A folder need not be listed if
something lies below it. -/
def entry? (files : Files) (names : List String) : Option Entry :=
  match files.entries.lookup names with
  | some entry => some entry
  | none =>
      if names.isEmpty || files.entries.any fun (below, _) => names.isPrefixOf below then
        some .folder
      else none

def longestName : Nat :=
  255

def longestPath : Nat :=
  4095

def isTooLong (name : String) : Bool :=
  longestName < name.utf8ByteSize

def follow (files : Files) : List String → List String → Except ReadFault Entry
  | here, [] =>
      match files.entry? here with
      | some entry => .ok entry
      | none => .error .missing
  | here, name :: rest =>
      match files.entry? here with
      | none => .error .missing
      | some (.bytes _) => .error .notFolder
      | some .folder =>
          if isHere name then files.follow here rest
          else if name = ".." then
            if here.isEmpty then .error .missing else files.follow here.dropLast rest
          else if isTooLong name then .error .nameTooLong
          else files.follow (here ++ [name]) rest

/-- The content of the file with the given path. Nothing is known of what lies
outside the root, apart from that it is not there. -/
def contents (files : Files) (path : String) : Except ReadFault ByteArray :=
  if longestPath < path.utf8ByteSize then .error .nameTooLong
  else
    match names path with
    | [] => .error .missing
    | first :: rest =>
        if first = files.root then
          match files.follow [] rest with
          | .ok (.bytes content) => .ok content
          | .ok .folder => .error .isFolder
          | .error fault => .error fault
        else if ((first :: rest).find? fun name => !isHere name).any isTooLong then
          .error .nameTooLong
        else .error .missing

end Files

end StabilizerPrep
