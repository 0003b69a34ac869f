import StabilizerPrep.Circuit.Spec
import StabilizerPrep.Graph.Adjacency

/-!
# Layers of single-qubit Cliffords

Up to Pauli factors there are six Cliffords on one qubit. Each acts on the
two bits of a Pauli factor by an invertible matrix. A layer has one Clifford
for each qubit.
-/

namespace StabilizerPrep

set_option autoImplicit false

/-- A linear map of the two bits of a Pauli factor: the new `x` is
`xx · x + xz · z`, the new `z` is `zx · x + zz · z`. -/
structure Symplectic where
  xx : Bool
  xz : Bool
  zx : Bool
  zz : Bool
  deriving DecidableEq, Repr

namespace Symplectic

def act (map : Symplectic) (x z : Bool) : Bool × Bool :=
  ((map.xx && x) != (map.xz && z), (map.zx && x) != (map.zz && z))

def zero : Symplectic :=
  ⟨false, false, false, false⟩

def add (first second : Symplectic) : Symplectic :=
  ⟨first.xx != second.xx, first.xz != second.xz, first.zx != second.zx,
    first.zz != second.zz⟩

end Symplectic

/-- A single-qubit Clifford up to Pauli factors. The letters are read from
right to left, so `hs` applies `s` first. -/
inductive LocalClifford where
  | i
  | h
  | s
  | hs
  | sh
  | hsh
  deriving DecidableEq, Repr

namespace LocalClifford

def every : List LocalClifford :=
  [.i, .h, .s, .hs, .sh, .hsh]

def name : LocalClifford → String
  | .i => "I"
  | .h => "H"
  | .s => "S"
  | .hs => "HS"
  | .sh => "SH"
  | .hsh => "HSH"

def ofName? (name : String) : Option LocalClifford :=
  every.find? fun clifford => clifford.name == name

def symplectic : LocalClifford → Symplectic
  | .i => ⟨true, false, false, true⟩
  | .h => ⟨false, true, true, false⟩
  | .s => ⟨true, false, true, true⟩
  | .hs => ⟨true, true, true, false⟩
  | .sh => ⟨false, true, true, true⟩
  | .hsh => ⟨true, true, false, true⟩

def ofSymplectic? (map : Symplectic) : Option LocalClifford :=
  every.find? fun clifford => clifford.symplectic == map

def gates : LocalClifford → List Gate
  | .i => []
  | .h => [.h]
  | .s => [.s]
  | .hs => [.s, .h]
  | .sh => [.h, .s]
  | .hsh => [.h, .s, .h]

@[simp] theorem of_symplectic?_symplectic (clifford : LocalClifford) :
    ofSymplectic? clifford.symplectic = some clifford := by
  cases clifford <;> decide

end LocalClifford

structure Layer where
  cliffords : List LocalClifford
  deriving DecidableEq, Repr

namespace Layer

def qubits (layer : Layer) : Nat :=
  layer.cliffords.length

def identity (qubits : Nat) : Layer :=
  ⟨List.replicate qubits .i⟩

def text (layer : Layer) : String :=
  "[" ++ " ".intercalate (layer.cliffords.map LocalClifford.name) ++ "]"

def block (layer : Layer) (coefficient : Symplectic → Bool) : Matrix :=
  .ofRows layer.qubits (layer.cliffords.mapIdx fun qubit clifford =>
    if coefficient clifford.symplectic then Mask.single qubit else 0)

/-- The sum of the chosen rows. -/
def mixRows (takeX takeZ : Bool) (x z : Nat) : Nat :=
  (if takeX then x else 0) ^^^ (if takeZ then z else 0)

/-- The action on the X part and the Z part of a list of operators: the rows
of each qubit are mixed by its Clifford. -/
def transform (layer : Layer) (xs zs : Matrix) : Matrix × Matrix :=
  let rows := layer.cliffords.zip (xs.rows.zip zs.rows)
  (.ofRows xs.columns (rows.map fun (clifford, x, z) =>
      mixRows clifford.symplectic.xx clifford.symplectic.xz x z),
    .ofRows xs.columns (rows.map fun (clifford, x, z) =>
      mixRows clifford.symplectic.zx clifford.symplectic.zz x z))

def instructions (layer : Layer) : List Instruction :=
  (layer.cliffords.mapIdx fun qubit clifford =>
    clifford.gates.map fun gate => ⟨gate, [qubit]⟩).flatten

def circuit (layer : Layer) : Circuit :=
  ⟨layer.qubits, layer.instructions⟩

/-- Whether the layer sends all columns of the two parts into the group of the
graph state: a transformed operator belongs there when its `Z` mask is the
sum of the neighbourhoods of its `X` mask. -/
def reaches (layer : Layer) (xs zs : Matrix) (graph : Graph) : Bool :=
  let size := xs.height
  if layer.qubits = size ∧ graph.size = size ∧ zs.height = xs.height ∧
      zs.columns = xs.columns then
    let (x, z) := layer.transform xs zs
    ((graph.adjacency.mul x).add z).isZero
  else false

end Layer

end StabilizerPrep
