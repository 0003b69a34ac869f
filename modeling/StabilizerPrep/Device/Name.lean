/-!
# Device names

A device is named by the shape of its coupling graph: two-qubit gates act
only on pairs of qubits that the graph joins.
-/

namespace StabilizerPrep

set_option autoImplicit false

inductive Device where
  | all
  | linear
  | star
  | cycle
  | t
  | q
  | ladder
  | e
  | h
  deriving DecidableEq, Repr

namespace Device

def every : List Device :=
  [.all, .linear, .star, .cycle, .t, .q, .ladder, .e, .h]

def name : Device → String
  | .all => "all"
  | .linear => "linear"
  | .star => "star"
  | .cycle => "cycle"
  | .t => "T"
  | .q => "Q"
  | .ladder => "ladder"
  | .e => "E"
  | .h => "H"

def ofName? (name : String) : Option Device :=
  every.find? fun device => device.name == name

theorem mem_every (device : Device) : device ∈ every := by
  cases device <;> decide

@[simp] theorem of_name?_name (device : Device) : ofName? device.name = some device := by
  cases device <;> decide

end Device

end StabilizerPrep
