import StabilizerPrep.Mask
import StabilizerPrep.Arithmetic

/-!
# Vertex roles

The roles of vertices are told by a list of groups. Each group is a list of
at most six vertices, ascending, and there are at most six groups. A group is
found by its size and its place among the groups of that size.
-/

namespace StabilizerPrep

set_option autoImplicit false

/-- The members of a list by ascending keys. Members with the same key keep
their order. -/
def sortBy {α : Type} (key : α → Nat) (items : List α) : List α :=
  -- the tables of partitions are evaluated in proofs, where the merge sort of the core library
  -- does not reduce
  items.foldr (fun item sorted =>
    sorted.takeWhile (key · < key item) ++ item :: sorted.dropWhile (key · < key item)) []

structure Roles where
  groups : List (List Nat)
  deriving DecidableEq, Repr

namespace Roles

/-- The largest number of groups, and of vertices in one of them. -/
def capacity : Nat :=
  6

/-- The roles with the given groups, each of them sorted, if they fit. -/
def ofGroups? (groups : List (List Nat)) : Option Roles :=
  if groups.length ≤ capacity ∧ groups.all (·.length ≤ capacity) then
    some ⟨groups.map (sortBy id)⟩
  else none

/-- The group of the members of a mask. Members that no group can hold are
dropped. -/
def groupOfMask (mask : Nat) : List Nat :=
  Mask.positions capacity mask

def groupMask (group : List Nat) : Nat :=
  group.foldl (fun mask vertex => mask ||| Mask.single vertex) 0

/-- The number of vertices that have a place in the mask of a group. -/
def places : Nat :=
  32

def groupMask? (group : List Nat) : Option Nat :=
  if group.all (· < places) then some (groupMask group) else none

/-- The group of the given size with the given place among those of its size,
or the empty group. -/
def group (roles : Roles) (size ordinal : Nat) : List Nat :=
  (roles.groups.filter fun group => group.length == size).getD ordinal []

def vertex (roles : Roles) (size ordinal position : Nat) : Nat :=
  (roles.group size ordinal).getD position 0

def vertex? (roles : Roles) (size ordinal position : Nat) : Option Nat :=
  (roles.group size ordinal)[position]?

/-- The union of the masks of disjoint groups and a mask seen before. -/
def cover : Nat → List (List Nat) → Option Nat
  | seen, [] => some seen
  | seen, group :: others =>
      let mask := groupMask group
      if seen &&& mask = 0 then cover (seen ||| mask) others else none

def isPartition (roles : Roles) (size : Nat) : Bool :=
  cover 0 roles.groups == some (Mask.full size) &&
    (roles.groups.map List.length).sum == size

/-- Whether a group with a vertex that has no place in a mask comes before any
overlap of the groups with each other and with a mask seen before. -/
def overflows : Nat → List (List Nat) → Bool
  | _, [] => false
  | seen, group :: others =>
      match groupMask? group with
      | none => true
      | some mask => seen &&& mask == 0 && overflows (seen ||| mask) others

/-- Whether the groups are a partition. Refused if a vertex without a place in
a mask is met. -/
def isPartition? (roles : Roles) (size : Nat) : Option Bool :=
  if overflows 0 roles.groups then none else some (roles.isPartition size)

def groupText (group : List Nat) : String :=
  "\x7b" ++ ",".intercalate (group.map Nat.repr) ++ "\x7d"

def text (roles : Roles) : String :=
  "[" ++ " ".intercalate (roles.groups.map groupText) ++ "]"

end Roles

end StabilizerPrep
