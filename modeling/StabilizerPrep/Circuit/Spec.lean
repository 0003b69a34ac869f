import StabilizerPrep.Arithmetic
import StabilizerPrep.Circuit.Basic
import StabilizerPrep.Text.Pieces

/-!
# Gate specifications

The text form of a circuit: words separated by blanks, each of them a gate
identifier directly followed by its operands, which are separated by commas,
as in `h0 s1 cx0,1 swap1,2`. Reading reports the first word that is wrong.
-/

namespace StabilizerPrep.Spec

set_option autoImplicit false

def isSeparator (letter : Char) : Bool :=
  letter == ' ' || letter == '\t' || letter == '\r' || letter == '\n'

def isNameLetter (letter : Char) : Bool :=
  'a' ≤ letter && letter ≤ 'z'

/-- Qubit indices are below this bound; a longer digit string is no index. -/
def indexBound : Nat :=
  2 ^ 32

/-- The index that a non-empty digit string denotes. -/
def index? (digits : List Char) : Option Nat :=
  let value := Nat.ofDigitChars 10 digits 0
  if digits.isEmpty || indexBound ≤ value then none else some value

/-- Reads the operands behind a gate identifier. They come cut at the commas,
and `offset` is where the first of them starts. -/
def operands (name : List Char) : Nat → List (List Char) → Except CircuitFault (List Nat)
  | _, [] => .ok []
  | offset, piece :: others =>
      let digits := piece.takeWhile Char.isDigit
      match index? digits with
      | none => .error (.malformedSpec offset (.expectedIndex (.ofList name)))
      | some index =>
          if digits.length < piece.length then
            .error (.malformedSpec (offset + digits.length) .unseparated)
          else do
            let rest ← operands name (offset + digits.length + 1) others
            .ok (index :: rest)

def startFault (letters : List Char) : SpecFault :=
  let digits := letters.takeWhile Char.isDigit
  if letters.head? = some ',' || (index? digits).isSome then .expectedGate
  else .unexpectedCharacter

def instruction (word : Text.Word) : Except CircuitFault Instruction :=
  let letters := word.letters.takeWhile isNameLetter
  if letters.isEmpty then
    .error (.malformedSpec word.start (startFault word.letters))
  else
    match Gate.ofLetters? letters with
    | none => .error (.unknownGate (.ofList letters) word.start)
    | some gate => do
        let rest := word.letters.drop letters.length
        let qubits ←
          operands letters (word.start + letters.length) (Text.split ',' rest)
        Instruction.make gate qubits

def read (letters : List Char) : Except CircuitFault (List Instruction) :=
  (Text.words isSeparator 0 letters).mapM instruction

def parse (spec : String) : Except CircuitFault (List Instruction) :=
  read spec.toList

def write (instructions : List Instruction) : List Char :=
  [' '].intercalate (instructions.map Instruction.letters)

def render (instructions : List Instruction) : String :=
  .ofList (write instructions)

end StabilizerPrep.Spec

namespace StabilizerPrep.Circuit

set_option autoImplicit false

/-- Reads a circuit of the given width. The whole specification is read
before its operands are compared with the width. -/
def read (width : Nat) (letters : List Char) : Except CircuitFault Circuit := do
  let instructions ← Spec.read letters
  ofInstructions width instructions

def parse (width : Nat) (spec : String) : Except CircuitFault Circuit :=
  read width spec.toList

def spec (circuit : Circuit) : String :=
  Spec.render circuit.instructions

end StabilizerPrep.Circuit
