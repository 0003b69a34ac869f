import StabilizerPrep.Document.Basic
import StabilizerPrep.Text.Layout

/-!
# Documents as YAML

Lists and records are written in block style: an item follows a dash, and a
field follows its label. A record below a label is moved in by two blanks, a
list below a label is not. Texts stand without quotes unless they could be
taken for something else.
-/

namespace StabilizerPrep.YamlText

set_option autoImplicit false

def indicators : List Char :=
  ",[]\x7b\x7d#&*!|>'\"%@`".toList

def looseIndicators : List Char :=
  "-?:".toList

def reservedWords : List String :=
  ["~", "null", "nil", "true", "false", "y", "yes", "n", "no", "on", "off", "nan"]

def startsLikeNumber : List Char → Bool
  | '+' :: letter :: _ | '-' :: letter :: _ => letter.isDigit || letter == '.'
  | letter :: _ => letter.isDigit || letter == '.'
  | [] => false

def hasSeparator : List Char → Bool
  | first :: second :: rest =>
      (first == ':' && second == ' ') || (first == ' ' && second == '#') ||
        hasSeparator (second :: rest)
  | _ => false

def isPlain (text : String) : Bool :=
  let letters := text.toList
  match letters with
  | [] => false
  | first :: rest =>
      !indicators.contains first && first != ' ' &&
        !(looseIndicators.contains first && (rest.isEmpty || rest.head? == some ' ')) &&
        !startsLikeNumber letters && !hasSeparator letters &&
        letters.getLast? != some ' ' && letters.getLast? != some ':' &&
        letters.all (fun letter => 32 ≤ letter.toNat) &&
        !reservedWords.contains text.toLower

/-- A text, between single quotes if it needs them. A quote inside is written
twice. -/
def scalar (text : String) : String :=
  if isPlain text then text
  else
    .ofList ('\'' :: text.toList.flatMap (fun letter =>
      if letter = '\'' then ['\'', '\''] else [letter]) ++ ['\''])

def label : Label → String
  | .name text | .garbled text => scalar text
  | .number value => Nat.repr value

def hang (marker : String) (margin : String) : List String → List String
  | [] => []
  | first :: others => (marker ++ first) :: others.map (margin ++ ·)

def fieldLines (name : Label) (value : Document) (lines : List String) : List String :=
  match value with
  | .list (_ :: _) => (label name ++ ":") :: lines
  | .record (_ :: _) => (label name ++ ":") :: lines.map ("  " ++ ·)
  | _ => lines.map (label name ++ ": " ++ ·)

mutual

def lines : Document → List String
  | .null => ["null"]
  | .truth value => [if value then "true" else "false"]
  | .natural value => [Nat.repr value]
  | .numeral text => [text]
  | .text value => [scalar value]
  | .list [] => ["[]"]
  | .list items => itemLines items
  | .record [] => ["\x7b\x7d"]
  | .record fields => recordLines fields

def itemLines : List Document → List String
  | [] => []
  | item :: others => hang "- " "  " (lines item) ++ itemLines others

def recordLines : List (Label × Document) → List String
  | [] => []
  | (name, value) :: others => fieldLines name value (lines value) ++ recordLines others

end

def render (document : Document) : String :=
  Text.unlines (lines document)

end StabilizerPrep.YamlText
