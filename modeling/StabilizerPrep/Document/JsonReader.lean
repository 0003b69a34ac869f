import StabilizerPrep.Document.Basic

/-!
# Reading JSON

A reader takes a value from the front of a text and gives it with the rest of
the text. Blanks are the blank, the tabulator and the two line ends. A natural
number that is written with digits alone is read as a natural, every other
number is kept as it is written.
-/

namespace StabilizerPrep.JsonText

set_option autoImplicit false

def isBlank (letter : Char) : Bool :=
  letter == ' ' || letter == '\t' || letter == '\n' || letter == '\r'

def skip (text : List Char) : List Char :=
  text.dropWhile isBlank

def expect : List Char → List Char → Option (List Char)
  | [], text => some text
  | wanted :: others, letter :: rest =>
      if wanted = letter then expect others rest else none
  | _ :: _, [] => none

def hexValue? (letter : Char) : Option Nat :=
  if letter.isDigit then some (letter.toNat - '0'.toNat)
  else if 'a' ≤ letter ∧ letter ≤ 'f' then some (letter.toNat - 'a'.toNat + 10)
  else if 'A' ≤ letter ∧ letter ≤ 'F' then some (letter.toNat - 'A'.toNat + 10)
  else none

def hexCode? (digits : List Char) : Option Nat := do
  let values ← digits.mapM hexValue?
  some (values.foldl (fun code value => 16 * code + value) 0)

def shortEscape? : Char → Option Nat
  | '"' => some 34
  | '\\' => some 92
  | '/' => some 47
  | 'b' => some 8
  | 'f' => some 12
  | 'n' => some 10
  | 'r' => some 13
  | 't' => some 9
  | _ => none

def codes : List Char → Option (List Nat × List Char)
  | [] => none
  | '"' :: rest => some ([], rest)
  | '\\' :: 'u' :: a :: b :: c :: d :: rest => do
      let code ← hexCode? [a, b, c, d]
      let (others, rest) ← codes rest
      some (code :: others, rest)
  | '\\' :: letter :: rest => do
      let code ← shortEscape? letter
      let (others, rest) ← codes rest
      some (code :: others, rest)
  | letter :: rest =>
      if letter.toNat < 32 then none
      else do
        let (others, rest) ← codes rest
        some (letter.toNat :: others, rest)

def isHighHalf (code : Nat) : Bool :=
  0xD800 ≤ code && code < 0xDC00

def isLowHalf (code : Nat) : Bool :=
  0xDC00 ≤ code && code < 0xE000

/-- Codes with the halves of pairs put together. A half without its partner
is given back as no code. -/
def pairUp : List Nat → List (Option Nat)
  | [] => []
  | [code] => [if isHighHalf code || isLowHalf code then none else some code]
  | code :: next :: rest =>
      if isHighHalf code then
        if isLowHalf next then
          some (0x10000 + (code - 0xD800) * 0x400 + (next - 0xDC00)) :: pairUp rest
        else none :: pairUp (next :: rest)
      else (if isLowHalf code then none else some code) :: pairUp (next :: rest)

/-- The text of the given codes, if every half has its partner. -/
def exactText? (codes : List Nat) : Option String := do
  let codes ← (pairUp codes).mapM id
  some (.ofList (codes.map Char.ofNat))

/-- The text of the given codes. The replacement character stands for a half
without its partner. -/
def looseText (codes : List Nat) : String :=
  .ofList ((pairUp codes).map fun code => Char.ofNat (code.getD 0xFFFD))

def labelOf (codes : List Nat) : Label :=
  match exactText? codes with
  | some text => .name text
  | none => .garbled (looseText codes)

def digits (text : List Char) : List Char × List Char :=
  text.span Char.isDigit

/-- Reads the digits in front of the point. There is at least one, and only
a lone one may be zero. -/
def readWhole (text : List Char) : Option (List Char × List Char) :=
  match digits text with
  | ([], _) => none
  | ('0' :: _ :: _, _) => none
  | found => some found

def readFraction : List Char → Option (List Char × List Char)
  | '.' :: rest =>
      match digits rest with
      | ([], _) => none
      | (found, rest) => some ('.' :: found, rest)
  | text => some ([], text)

def readExponent : List Char → Option (List Char × List Char)
  | letter :: rest =>
      if letter = 'e' ∨ letter = 'E' then
        let (sign, rest) := match rest with
          | '+' :: rest => (['+'], rest)
          | '-' :: rest => (['-'], rest)
          | rest => ([], rest)
        match digits rest with
        | ([], _) => none
        | (found, rest) => some (letter :: sign ++ found, rest)
      else some ([], letter :: rest)
  | [] => some ([], [])

def value (digits : List Char) : Nat :=
  digits.foldl (fun value letter => 10 * value + (letter.toNat - '0'.toNat)) 0

def readUnsigned (text : List Char) : Option ((List Char × Bool) × List Char) := do
  let (whole, rest) ← readWhole text
  let (fraction, rest) ← readFraction rest
  let (exponent, rest) ← readExponent rest
  some ((whole ++ fraction ++ exponent, fraction.isEmpty && exponent.isEmpty), rest)

def readNumber : List Char → Option (Document × List Char)
  | '-' :: text => do
      let ((letters, _), rest) ← readUnsigned text
      some (.numeral (.ofList ('-' :: letters)), rest)
  | text => do
      let ((letters, isWhole), rest) ← readUnsigned text
      some (if isWhole then .natural (value letters) else .numeral (.ofList letters), rest)

mutual

/-- Reads a value. The fuel bounds the number of values that are read one
inside or behind another. -/
def readValue : Nat → List Char → Option (Document × List Char)
  | 0, _ => none
  | fuel + 1, text =>
      match skip text with
      | 'n' :: rest => do some (.null, ← expect "ull".toList rest)
      | 't' :: rest => do some (.truth true, ← expect "rue".toList rest)
      | 'f' :: rest => do some (.truth false, ← expect "alse".toList rest)
      | '"' :: rest => do
          let (codes, rest) ← codes rest
          some (.text (looseText codes), rest)
      | '[' :: rest =>
          match skip rest with
          | ']' :: rest => some (.list [], rest)
          | rest => do
              let (items, rest) ← readItems fuel rest
              some (.list items, rest)
      | '\x7b' :: rest =>
          match skip rest with
          | '\x7d' :: rest => some (.record [], rest)
          | rest => do
              let (fields, rest) ← readFields fuel rest
              some (.record fields, rest)
      | text => readNumber text

def readItems : Nat → List Char → Option (List Document × List Char)
  | 0, _ => none
  | fuel + 1, text => do
      let (item, rest) ← readValue fuel text
      match skip rest with
      | ']' :: rest => some ([item], rest)
      | ',' :: rest => do
          let (items, rest) ← readItems fuel rest
          some (item :: items, rest)
      | _ => none

def readFields : Nat → List Char → Option (List (Label × Document) × List Char)
  | 0, _ => none
  | fuel + 1, text => do
      let rest ← expect ['"'] (skip text)
      let (codes, rest) ← codes rest
      let rest ← expect [':'] (skip rest)
      let (value, rest) ← readValue fuel rest
      match skip rest with
      | '\x7d' :: rest => some ([(labelOf codes, value)], rest)
      | ',' :: rest => do
          let (fields, rest) ← readFields fuel rest
          some ((labelOf codes, value) :: fields, rest)
      | _ => none

end

/-- The document that a whole text holds. Every value takes at least one
character, so the length of the text is enough fuel. -/
def read (text : String) : Option Document := do
  let letters := text.toList
  let (document, rest) ← readValue (2 * letters.length + 1) letters
  if (skip rest).isEmpty then some document else none

end StabilizerPrep.JsonText
