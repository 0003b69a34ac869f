import StabilizerPrep.Device.Coupling
import StabilizerPrep.Entanglement.Representative

/-!
# Local Clifford classes

A class of stabilizer states is a structure together with the roles of the
vertices. The classes on `n` qubits are numbered without gaps: structures in
their order, and within a structure by the number of the partition.
-/

namespace StabilizerPrep

set_option autoImplicit false

structure LocalClass where
  kind : Structure
  roles : Roles
  id : Nat
  deriving DecidableEq, Repr

namespace LocalClass

/-- The class with a given structure and given roles, if they fit. Nothing is
given if roles that fit have no number. -/
def make? (kind : Structure) (roles : Roles) : Option (Except Fault LocalClass) :=
  if kind.shape.accepts roles then
    (kind.shape.rank? roles).map fun number => .ok ⟨kind, roles, kind.firstId + number⟩
  else some (.error (.invalidRoles kind.name roles.text))

def make (kind : Structure) (roles : Roles) : Except Fault LocalClass :=
  (make? kind roles).getD (.error (.invalidRoles kind.name roles.text))

def structures (qubits : Nat) : Except Fault (List Structure) := do
  Device.checkQubits qubits
  .ok (Structure.every qubits)

def count (qubits : Nat) : Except Fault Nat := do
  let kinds ← structures qubits
  .ok ((kinds.map Structure.classCount).sum)

/-- The structure and the number within it that belong to a class number. -/
def locate? : List Structure → Nat → Option (Structure × Nat)
  | [], _ => none
  | kind :: others, id =>
      if id < kind.classCount then some (kind, id)
      else locate? others (id - kind.classCount)

def ofId (qubits id : Nat) : Except Fault LocalClass := do
  let count ← count qubits
  match locate? (Structure.every qubits) id with
  | none => .error (.invalidClassId qubits id count)
  | some (kind, number) =>
      match kind.shape.roles number with
      | .error _ => .error (.invalidClassId qubits id count)
      | .ok roles => make kind roles

def qubits (localClass : LocalClass) : Nat :=
  localClass.kind.qubits

/-- The graph whose graph state represents the class. -/
def graph (localClass : LocalClass) : Graph :=
  localClass.kind.graph localClass.roles

def text (localClass : LocalClass) : String :=
  s!"{localClass.kind.name} {localClass.roles.text} (id {localClass.id})"

end LocalClass

end StabilizerPrep
