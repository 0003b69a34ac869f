import StabilizerPrep.Document.Basic

/-!
# Documents as JSON

Every item and every field stands on a line of its own, two blanks further in
than the brackets around it. Brackets around nothing stay together. Labels are
always texts.
-/

namespace StabilizerPrep.JsonText

set_option autoImplicit false

def hexDigits (code : Nat) : List Char :=
  [code / 4096 % 16, code / 256 % 16, code / 16 % 16, code % 16].map Nat.digitChar

def escape (letter : Char) : List Char :=
  match letter with
  | '"' => ['\\', '"']
  | '\\' => ['\\', '\\']
  | '\n' => ['\\', 'n']
  | '\r' => ['\\', 'r']
  | '\t' => ['\\', 't']
  | '\x08' => ['\\', 'b']
  | '\x0c' => ['\\', 'f']
  | _ => if letter.toNat < 32 then '\\' :: 'u' :: hexDigits letter.toNat else [letter]

def quote (text : String) : String :=
  .ofList ('"' :: text.toList.flatMap escape ++ ['"'])

def label : Label → String
  | .name text | .garbled text => quote text
  | .number value => quote (Nat.repr value)

def margin (depth : Nat) : String :=
  .ofList (List.replicate (2 * depth) ' ')

def enclose (left right : String) (depth : Nat) (lines : List String) : String :=
  if lines.isEmpty then left ++ right
  else left ++ "\n" ++ ",\n".intercalate lines ++ "\n" ++ margin depth ++ right

mutual

/-- A document whose brackets stand at the given depth. -/
def renderAt (depth : Nat) : Document → String
  | .null => "null"
  | .truth value => if value then "true" else "false"
  | .natural value => Nat.repr value
  | .numeral text => text
  | .text value => quote value
  | .list items => enclose "[" "]" depth (itemLines (depth + 1) items)
  | .record fields => enclose "\x7b" "\x7d" depth (fieldLines (depth + 1) fields)

def itemLines (depth : Nat) : List Document → List String
  | [] => []
  | item :: others => (margin depth ++ renderAt depth item) :: itemLines depth others

def fieldLines (depth : Nat) : List (Label × Document) → List String
  | [] => []
  | (name, value) :: others =>
      (margin depth ++ label name ++ ": " ++ renderAt depth value) :: fieldLines depth others

end

def render (document : Document) : String :=
  renderAt 0 document

end StabilizerPrep.JsonText
