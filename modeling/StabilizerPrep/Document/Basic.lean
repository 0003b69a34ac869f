/-!
# Documents

A document is the form that values take before they are written as text, and
after they have been read from text: nothing, a truth value, a number, a text,
a list or a record.
-/

namespace StabilizerPrep

set_option autoImplicit false

inductive Label where
  | name (text : String)
  /-- A name that is no text, with replacement characters where it is none. -/
  | garbled (text : String)
  | number (value : Nat)
  deriving DecidableEq, Repr

inductive Document where
  | null
  | truth (value : Bool)
  | natural (value : Nat)
  /-- A number that is no natural number, as it is written. -/
  | numeral (text : String)
  | text (value : String)
  | list (items : List Document)
  | record (fields : List (Label × Document))

namespace Document

def named (fields : List (String × Document)) : Document :=
  .record (fields.map fun (name, value) => (.name name, value))

def naturals (values : List Nat) : Document :=
  .list (values.map .natural)

def texts (values : List String) : Document :=
  .list (values.map .text)

end Document

end StabilizerPrep
