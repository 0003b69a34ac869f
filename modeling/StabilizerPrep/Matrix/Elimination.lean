import StabilizerPrep.Matrix.Basic

/-!
# Gauss-Jordan elimination

Columns are visited from left to right. In each one the first pending row
with a one there becomes the pivot, trades places with the first pending row,
and clears the column in all other rows. Every row carries along which sum of
the given rows it is, so the transform and its inverse come for free.
-/

namespace StabilizerPrep.Matrix

set_option autoImplicit false

/-- A row of a matrix under elimination: its entries, the given rows it is the
sum of, and the column of the inverse transform that stands at its place. -/
structure TrackedRow where
  entries : Nat
  trace : Nat
  dual : Nat
  deriving DecidableEq, Repr

/-- The rows that hold a pivot, the rows that do not yet, and the columns of
the pivots. -/
structure Elimination where
  reduced : List TrackedRow
  pending : List TrackedRow
  pivots : List Nat
  deriving DecidableEq, Repr

namespace Elimination

def start (matrix : Matrix) : Elimination where
  reduced := []
  pending := matrix.rows.mapIdx fun i row => ⟨row, Mask.single i, Mask.single i⟩
  pivots := []

/-- Takes out the first row with a one in the column. The first of the given
rows moves to the place that becomes free. -/
def takePivot (column : Nat) : List TrackedRow → Option (TrackedRow × List TrackedRow)
  | [] => none
  | first :: rest =>
      let misses := fun row : TrackedRow => !row.entries.testBit column
      if misses first then
        match rest.dropWhile misses with
        | [] => none
        | pivot :: after => some (pivot, rest.takeWhile misses ++ first :: after)
      else some (first, rest)

/-- Adds the pivot to a row that has a one in its column. -/
def clear (column : Nat) (pivot row : TrackedRow) : TrackedRow :=
  if row.entries.testBit column then
    { row with
      entries := row.entries ^^^ pivot.entries
      trace := row.trace ^^^ pivot.trace }
  else row

def gather (column : Nat) (pivot : TrackedRow) (rows : List TrackedRow) : TrackedRow :=
  { pivot with
    dual := rows.foldl
      (fun dual row =>
        if row.entries.testBit column then dual ^^^ row.dual else dual)
      pivot.dual }

def step (state : Elimination) (column : Nat) : Elimination :=
  match takePivot column state.pending with
  | none => state
  | some (pivot, others) =>
      { reduced := state.reduced.map (clear column pivot) ++
          [gather column pivot (state.reduced ++ others)]
        pending := others.map (clear column pivot)
        pivots := state.pivots ++ [column] }

def rows (state : Elimination) : List TrackedRow :=
  state.reduced ++ state.pending

end Elimination

def eliminate (matrix : Matrix) : Elimination :=
  (List.range matrix.columns).foldl Elimination.step (.start matrix)

structure Echelon where
  matrix : Matrix
  pivots : List Nat
  deriving DecidableEq

def echelon (matrix : Matrix) : Echelon :=
  let result := matrix.eliminate
  ⟨ofRows matrix.columns (result.rows.map (·.entries)), result.pivots⟩

def rank (matrix : Matrix) : Nat :=
  matrix.echelon.pivots.length

/-- A reduced row-echelon form with the transform that leads to it, in both
directions. -/
structure BasisChange where
  echelon : Echelon
  transform : Matrix
  inverse : Matrix
  deriving DecidableEq

def basisChange (matrix : Matrix) : BasisChange :=
  let result := matrix.eliminate.rows
  { echelon := matrix.echelon
    transform := ofRows matrix.height (result.map (·.trace))
    inverse := (ofRows matrix.height (result.map (·.dual))).transpose }

/-- The pivot columns whose rows have a one in the given column. -/
def pivotPart (echelon : Echelon) (column : Nat) : Nat :=
  (echelon.matrix.rows.zip echelon.pivots).foldl
    (fun vector (row, pivot) =>
      if row.testBit column then vector ^^^ Mask.single pivot else vector)
    0

/-- A basis of the vectors that the matrix sends to zero, with one vector for
each column without a pivot. -/
def nullSpace (matrix : Matrix) : List Nat :=
  let echelon := matrix.echelon
  ((List.range matrix.columns).filter fun column =>
      !echelon.pivots.contains column).map fun column =>
    Mask.single column ^^^ pivotPart echelon column

def augment (matrix : Matrix) (vector : Nat) : Matrix :=
  ofRows (matrix.columns + 1)
    (matrix.rows.mapIdx fun i row =>
      if vector.testBit i then row ^^^ Mask.single matrix.columns else row)

/-- A vector that the matrix sends to the given one, if there is any. Columns
without a pivot do not take part in it. -/
def solve (matrix : Matrix) (vector : Nat) : Option Nat :=
  let echelon := (matrix.augment vector).echelon
  if echelon.pivots.contains matrix.columns then none
  else some (pivotPart echelon matrix.columns)

end StabilizerPrep.Matrix
