/-!
# Pieces of text

Cutting a text at a separator, trimming blanks from its ends, and cutting it
into words that remember where they start.
-/

namespace StabilizerPrep.Text

set_option autoImplicit false

/-- The maximal pieces of a text that hold no separator. There is always one
more piece than there are separators. -/
def split (separator : Char) (text : List Char) : List (List Char) :=
  text.foldr
    (fun letter pieces =>
      if letter = separator then [] :: pieces
      else
        match pieces with
        | [] => [[letter]]
        | piece :: others => (letter :: piece) :: others)
    [[]]

def splitFirst? (separator : Char) : List Char → Option (List Char × List Char)
  | [] => none
  | letter :: rest =>
      if letter = separator then some ([], rest)
      else (splitFirst? separator rest).map fun (before, after) =>
        (letter :: before, after)

/-- The characters with the Unicode property White_Space. -/
def isBlank (letter : Char) : Bool :=
  let code := letter.toNat
  (9 ≤ code && code ≤ 13) || code == 0x20 || code == 0x85 || code == 0xA0 ||
    code == 0x1680 || (0x2000 ≤ code && code ≤ 0x200A) || code == 0x2028 ||
    code == 0x2029 || code == 0x202F || code == 0x205F || code == 0x3000

def trim (text : List Char) : List Char :=
  ((text.dropWhile isBlank).reverse.dropWhile isBlank).reverse

/-- A piece of text and the byte offset at which it starts. -/
structure Word where
  start : Nat
  letters : List Char
  deriving DecidableEq, Repr

/-- The maximal runs of letters that are not separators. A letter joins the
word that starts right behind it. -/
def words (isSeparator : Char → Bool) : Nat → List Char → List Word
  | _, [] => []
  | offset, letter :: rest =>
      let next := offset + letter.utf8Size
      let later := words isSeparator next rest
      if isSeparator letter then later
      else
        match later with
        | [] => [⟨offset, [letter]⟩]
        | word :: others =>
            if word.start = next then ⟨offset, letter :: word.letters⟩ :: others
            else ⟨offset, [letter]⟩ :: later

/-- The non-blank lines of a text, trimmed, with their numbers. Lines end at
line feeds and are numbered from one, the blank ones included. -/
def numberedLines (text : List Char) : List (Nat × List Char) :=
  (((split '\n' text).map trim).zipIdx 1).filterMap fun (line, number) =>
    if line.isEmpty then none else some (number, line)

end StabilizerPrep.Text
