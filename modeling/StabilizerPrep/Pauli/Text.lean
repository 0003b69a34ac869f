import StabilizerPrep.Pauli.Basic
import StabilizerPrep.Arithmetic

/-!
# The text of a Pauli operator

An operator is written with its sign and one letter for each qubit, qubit
zero first, as in `-XIZY`. A sign in front of an imaginary operator is
followed by `i`. Reading takes Hermitian operators only; a missing sign means
plus.
-/

namespace StabilizerPrep.Pauli

set_option autoImplicit false

def letters (pauli : Pauli) : List Char :=
  (List.range pauli.qubits).map fun qubit => (pauli.factor qubit).letter

def signText (pauli : Pauli) : List Char :=
  match pauli.prefactor with
  | 0 => ['+']
  | 1 => ['+', 'i']
  | 2 => ['-']
  | _ => ['-', 'i']

def text (pauli : Pauli) : String :=
  .ofList (pauli.signText ++ pauli.letters)

def text? (pauli : Pauli) : Option String :=
  if pauli.qubits ≤ maxQubits then some pauli.text else none

/-- Takes an optional sign off the front of a text. -/
def splitSign : List Char → Bool × List Char
  | '+' :: body => (false, body)
  | '-' :: body => (true, body)
  | body => (false, body)

def readFactors (body : List Char) : Except PauliFault (List Factor) :=
  body.mapM fun letter =>
    match Factor.ofLetter? letter with
    | some factor => .ok factor
    | none => .error (.unexpected letter)

def ofFactors (negative : Bool) (factors : List Factor) : Pauli :=
  ofMasks factors.length (Mask.ofBits (factors.map Factor.hasX))
    (Mask.ofBits (factors.map Factor.hasZ)) negative

/-- Reads an operator. The length is limited before the letters are looked
at, and it counts bytes of UTF-8. -/
def read (text : List Char) : Except PauliFault Pauli :=
  let (negative, body) := splitSign text
  if body.isEmpty then .error .empty
  else if maxQubits < (body.map Char.utf8Size).sum then .error .tooLong
  else do
    let factors ← readFactors body
    .ok (ofFactors negative factors)

def parse (text : String) : Except Fault Pauli :=
  match read text.toList with
  | .ok pauli => .ok pauli
  | .error fault => .error (.invalidPauli text fault)

end StabilizerPrep.Pauli
