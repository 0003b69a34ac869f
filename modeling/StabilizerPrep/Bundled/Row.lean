import StabilizerPrep.Template.Table

/-!
# Rows of the bundled tables

A bundled template starts with the gate `h` on every qubit and goes on with
gates `cz` and `swap`. Those are written as the bytes of one number behind a
leading one, in time order. The two hexadecimal digits of a byte are the
operands, and the first one of a `swap` is eight larger: `0x1_01_92` stands
for `cz0,1 swap1,2`.
-/

namespace StabilizerPrep.Bundled

set_option autoImplicit false

structure Row where
  graphId : Nat
  cost : Nat
  depth : Nat
  gates : Nat
  deriving DecidableEq, Repr

/-- The bytes of a number behind its leading one, in front of later bytes. The
first argument bounds how many there are. -/
def bytes : Nat → Nat → List Nat → List Nat
  | 0, _, later => later
  | bound + 1, number, later =>
      if number ≤ 1 then later else bytes bound (number / 256) (number % 256 :: later)

def instruction (byte : Nat) : Instruction :=
  ⟨if byte < 128 then .cz else .swap, [byte / 16 % 8, byte % 16]⟩

namespace Row

def instructions (qubits : Nat) (row : Row) : List Instruction :=
  (List.range qubits).map (fun qubit => ⟨.h, [qubit]⟩) ++
    (bytes row.gates row.gates []).map instruction

def template (qubits : Nat) (row : Row) : Template where
  graphId := row.graphId
  cost := row.cost
  depth := row.depth
  circuit := ⟨qubits, row.instructions qubits⟩

def line (qubits : Nat) (row : Row) : List Char :=
  Nat.toDigits 10 row.graphId ++ ':' :: (Nat.toDigits 10 row.cost ++ ':' ::
    (Nat.toDigits 10 row.depth ++ ':' :: Spec.write (row.instructions qubits)))

end Row

def text (qubits : Nat) (rows : List Row) : String :=
  .ofList (rows.flatMap fun row => row.line qubits ++ ['\n'])

end StabilizerPrep.Bundled
