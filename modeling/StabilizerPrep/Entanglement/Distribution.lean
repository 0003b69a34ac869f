import StabilizerPrep.Entanglement.LocalClass
import StabilizerPrep.Stabilizer.Group

/-!
# Local invariants

What classification reads off a stabilizer: which qubits are entangled, and
for every set of qubits the number of group elements that are the identity
exactly there. Neither depends on signs, on the choice of generators or on
single-qubit Cliffords.
-/

namespace StabilizerPrep

set_option autoImplicit false

/-- The sets of qubits on which some element is the identity and nowhere
else, ascending as masks, with the number of such elements. -/
abbrev Distribution := List (Nat × Nat)

namespace Distribution

def ofStabilizer (stabilizer : Stabilizer) : Distribution :=
  let masks := stabilizer.elements.map Pauli.identityMask
  ((List.range (2 ^ stabilizer.qubits)).map fun mask => (mask, masks.count mask)).filter
    fun entry => entry.2 != 0

def count (distribution : Distribution) (mask : Nat) : Nat :=
  (distribution.lookup mask).getD 0

def places : Nat :=
  64

/-- The number of elements that are the identity exactly on a set, if the set
has a place. -/
def count? (distribution : Distribution) (mask : Nat) : Option Nat :=
  if mask < places then some (distribution.count mask) else none

def select (distribution : Distribution) (test : Nat → Nat → Bool) : List Nat :=
  (distribution.filter fun (mask, count) => test mask count).map (·.1)

def withWeight (distribution : Distribution) (weight : Nat) : List Nat :=
  distribution.select fun mask _ => Mask.weight mask == weight

def withCount (distribution : Distribution) (count : Nat) : List Nat :=
  distribution.select fun _ found => found == count

def withBoth (distribution : Distribution) (weight count : Nat) : List Nat :=
  distribution.select fun mask found => Mask.weight mask == weight && found == count

/-- The last set with the given number of elements, or the empty set. -/
def lastWithCount (distribution : Distribution) (count : Nat) : Nat :=
  ((distribution.withCount count).getLast?).getD 0

end Distribution

/-- The outcome of a computation that may fail. There is none if it reads
outside a list or a table. -/
abbrev Checked := ExceptT Fault Option

structure Invariants where
  qubits : Nat
  entangledMask : Nat
  distribution : Distribution
  deriving DecidableEq, Repr

namespace Invariants

def ofStabilizer (stabilizer : Stabilizer) : Invariants where
  qubits := stabilizer.qubits
  entangledMask := stabilizer.entangledMask
  distribution := .ofStabilizer stabilizer

/-- The invariants of a stabilizer whose elements are all the identity on sets
that have a place. -/
def ofStabilizer? (stabilizer : Stabilizer) : Option Invariants := do
  let elements ← stabilizer.expand?
  if elements.all fun element => element.identityMask < Distribution.places then
    some (ofStabilizer stabilizer)
  else none

def whole (invariants : Invariants) : List Nat :=
  Roles.groupOfMask (Mask.full invariants.qubits)

def rest (invariants : Invariants) (used : Nat) : List Nat :=
  (invariants.whole).filter fun qubit => !used.testBit qubit

def entangled (invariants : Invariants) : List Nat :=
  Roles.groupOfMask invariants.entangledMask

def free (invariants : Invariants) : List Nat :=
  invariants.rest invariants.entangledMask

def freeMask (invariants : Invariants) : Nat :=
  Roles.groupMask invariants.free

def freeSingle (invariants : Invariants) (position : Nat) : Checked (List Nat) := do
  return [← (invariants.free[position]? : Option Nat)]

/-- The number of elements that are the identity nowhere. -/
def fullWeight (invariants : Invariants) : Nat :=
  invariants.distribution.count 0

def unrecognized {α : Type} (invariants : Invariants) (detail : String) : Checked α :=
  throw (.invalidStabilizer (.unrecognized invariants.qubits detail))

def build (invariants : Invariants) (kind : Structure) (groups : List (List Nat)) :
    Checked LocalClass :=
  match LocalClass.make? kind ⟨groups⟩ with
  | some (.ok localClass) => return localClass
  | some (.error _) => invariants.unrecognized s!"roles do not fit {kind.name}"
  | none => ExceptT.mk none

def firstOf (invariants : Invariants) (mask : Nat) : Checked (List Nat) :=
  match Mask.lowest? mask with
  | some qubit => return [qubit]
  | none => invariants.unrecognized "empty identity set"

def miscount {α : Type} (invariants : Invariants) (expected : Nat) (what : String)
    (masks : List Nat) : Checked α :=
  invariants.unrecognized s!"expected {expected} {what}, found {masks.length}"

def oneSet (invariants : Invariants) (what : String) (masks : List Nat) :
    Checked Nat :=
  match masks with
  | [mask] => return mask
  | _ => invariants.miscount 1 what masks

def twoSets (invariants : Invariants) (what : String) (masks : List Nat) :
    Checked (Nat × Nat) :=
  match masks with
  | [first, second] => return (first, second)
  | _ => invariants.miscount 2 what masks

def threeSets (invariants : Invariants) (what : String) (masks : List Nat) :
    Checked (Nat × Nat × Nat) :=
  match masks with
  | [first, second, third] => return (first, second, third)
  | _ => invariants.miscount 3 what masks

end Invariants

end StabilizerPrep
