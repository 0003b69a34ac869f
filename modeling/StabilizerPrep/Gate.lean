/-!
# Clifford gates

The nine gates a preparation circuit may use. Each one sends Pauli operators
to Pauli operators, so a circuit over them can be followed symbolically.
-/

namespace StabilizerPrep

set_option autoImplicit false

/-- A gate of a preparation circuit. For `cx` the first operand is the
control. -/
inductive Gate where
  | h
  | s
  | sdg
  | x
  | y
  | z
  | cx
  | cz
  | swap
  deriving DecidableEq, Repr

namespace Gate

def all : List Gate :=
  [.h, .s, .sdg, .x, .y, .z, .cx, .cz, .swap]

def letters : Gate → List Char
  | .h => ['h']
  | .s => ['s']
  | .sdg => ['s', 'd', 'g']
  | .x => ['x']
  | .y => ['y']
  | .z => ['z']
  | .cx => ['c', 'x']
  | .cz => ['c', 'z']
  | .swap => ['s', 'w', 'a', 'p']

def name (gate : Gate) : String :=
  .ofList gate.letters

def ofLetters? (letters : List Char) : Option Gate :=
  all.find? fun gate => gate.letters == letters

def ofName? (name : String) : Option Gate :=
  ofLetters? name.toList

def arity : Gate → Nat
  | .cx | .cz | .swap => 2
  | _ => 1

def inverse : Gate → Gate
  | .s => .sdg
  | .sdg => .s
  | gate => gate

/-- The number of native two-qubit gates a gate is worth. A swap is worth
three, because it is carried out as three alternating `cx`. -/
def cost : Gate → Nat
  | .cx | .cz => 1
  | .swap => 3
  | _ => 0

def isPauli : Gate → Bool
  | .x | .y | .z => true
  | _ => false

theorem mem_all (gate : Gate) : gate ∈ all := by
  cases gate <;> decide

@[simp] theorem of_letters?_letters (gate : Gate) :
    ofLetters? gate.letters = some gate := by
  cases gate <;> decide

@[simp] theorem of_name?_name (gate : Gate) : ofName? gate.name = some gate := by
  rw [ofName?, name, String.toList_ofList, of_letters?_letters]

@[simp] theorem inverse_inverse (gate : Gate) : gate.inverse.inverse = gate := by
  cases gate <;> rfl

@[simp] theorem arity_inverse (gate : Gate) : gate.inverse.arity = gate.arity := by
  cases gate <;> rfl

@[simp] theorem cost_inverse (gate : Gate) : gate.inverse.cost = gate.cost := by
  cases gate <;> rfl

end Gate

end StabilizerPrep
