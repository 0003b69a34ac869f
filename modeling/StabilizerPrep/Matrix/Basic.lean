import StabilizerPrep.Mask

/-!
# Matrices over the field with two elements

A matrix is a list of row masks together with its number of columns; bit `j`
of row `i` is the entry in row `i` and column `j`. Vectors are masks, and
their length is that of the side of the matrix they belong to.
-/

namespace StabilizerPrep

set_option autoImplicit false

structure Matrix where
  columns : Nat
  rows : List Nat
  bounded : ∀ row ∈ rows, row < 2 ^ columns

namespace Matrix

instance : DecidableEq Matrix := fun first second =>
  match first, second with
  | ⟨columns, rows, _⟩, ⟨columns', rows', _⟩ =>
      if same : columns = columns' ∧ rows = rows' then
        .isTrue (by obtain ⟨rfl, rfl⟩ := same; rfl)
      else .isFalse (by intro equal; injection equal; exact same ⟨‹_›, ‹_›⟩)

/-- The matrix with the given rows, cut off at the last column. -/
def ofRows (columns : Nat) (rows : List Nat) : Matrix where
  columns := columns
  rows := rows.map (· % 2 ^ columns)
  bounded := by
    intro row member
    obtain ⟨wide, _, rfl⟩ := List.mem_map.1 member
    exact Nat.mod_lt _ (Nat.two_pow_pos columns)

def height (matrix : Matrix) : Nat :=
  matrix.rows.length

/-- The entry in row `i` and column `j`; outside the matrix it is zero. -/
def entry (matrix : Matrix) (i j : Nat) : Bool :=
  (matrix.rows.getD i 0).testBit j

def ofEntries (height columns : Nat) (test : Nat → Nat → Bool) : Matrix :=
  ofRows columns ((List.range height).map fun i => Mask.ofTest columns (test i))

def zero (height columns : Nat) : Matrix :=
  ofRows columns (List.replicate height 0)

def identity (size : Nat) : Matrix :=
  ofRows size ((List.range size).map Mask.single)

/-- The sum of the rows whose positions are in `selection`. -/
def combine : List Nat → Nat → Nat
  | [], _ => 0
  | row :: rows, selection =>
      (if selection.testBit 0 then row else 0) ^^^ combine rows (selection / 2)

def mul (first second : Matrix) : Matrix :=
  ofRows second.columns (first.rows.map (combine second.rows))

def mulVec (matrix : Matrix) (vector : Nat) : Nat :=
  Mask.ofBits (matrix.rows.map fun row => Mask.parity (row &&& vector))

def add (first second : Matrix) : Matrix :=
  ofRows first.columns (List.zipWith (· ^^^ ·) first.rows second.rows)

def transpose (matrix : Matrix) : Matrix :=
  ofRows matrix.height
    ((List.range matrix.columns).map fun j =>
      Mask.ofBits (matrix.rows.map (·.testBit j)))

def stack (top bottom : Matrix) : Matrix :=
  ofRows top.columns (top.rows ++ bottom.rows)

def isZero (matrix : Matrix) : Bool :=
  matrix.rows.all (· == 0)

@[simp] theorem columns_of_rows (columns : Nat) (rows : List Nat) :
    (ofRows columns rows).columns = columns := rfl

@[simp] theorem height_of_rows (columns : Nat) (rows : List Nat) :
    (ofRows columns rows).height = rows.length := by
  simp [height, ofRows]

theorem entry_of_rows (columns : Nat) (rows : List Nat) (i j : Nat) :
    (ofRows columns rows).entry i j =
      (decide (j < columns) && (rows.getD i 0).testBit j) := by
  by_cases bound : i < rows.length
  · simp [entry, ofRows, List.getD_eq_getElem?_getD, bound, Nat.testBit_mod_two_pow]
  · simp [entry, ofRows, List.getD_eq_getElem?_getD, Nat.le_of_not_lt bound]

end Matrix

end StabilizerPrep
