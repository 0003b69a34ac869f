import StabilizerPrep.Matrix.Elimination
import StabilizerPrep.Stabilizer.Basic

/-!
# The matrices of a stabilizer

The X part and the Z part of a stabilizer are square matrices with one row
for each qubit and one column for each generator. Together with the signs
they determine it. Digit matrices, as they come from outside, are checked
before they are taken.
-/

namespace StabilizerPrep

set_option autoImplicit false

structure DigitMatrix where
  height : Nat
  columns : Nat
  digits : List (List Nat)
  deriving DecidableEq, Repr

namespace DigitMatrix

def isBinary (matrix : DigitMatrix) : Bool :=
  matrix.digits.all fun row => row.all (· ≤ 1)

/-- The matrix in which every digit other than zero counts as one. -/
def toMatrix (matrix : DigitMatrix) : Matrix :=
  .ofRows matrix.columns (matrix.digits.map fun row => Mask.ofBits (row.map (· != 0)))

end DigitMatrix

namespace Stabilizer

/-- The generators' factors `X` and `Y`, with one column for each generator. -/
def xPart (stabilizer : Stabilizer) : Matrix :=
  .ofRows stabilizer.qubits ((List.range stabilizer.qubits).map fun qubit =>
    Mask.ofBits (stabilizer.generators.map (·.x.testBit qubit)))

/-- The generators' factors `Z` and `Y`, with one column for each generator. -/
def zPart (stabilizer : Stabilizer) : Matrix :=
  .ofRows stabilizer.qubits ((List.range stabilizer.qubits).map fun qubit =>
    Mask.ofBits (stabilizer.generators.map (·.z.testBit qubit)))

def signs (stabilizer : Stabilizer) : List Bool :=
  stabilizer.generators.map (·.negative)

def ofParts (xs zs : Matrix) (signs : List Bool) : Stabilizer :=
  ofGenerators (signs.mapIdx fun index negative =>
    { x := Mask.ofBits (xs.rows.map (·.testBit index))
      z := Mask.ofBits (zs.rows.map (·.testBit index))
      negative := negative })

/-- Takes digit matrices and digit signs of matching sizes; missing signs are
all plus. Sizes are looked at before digits. -/
def ofMatrices (xs zs : DigitMatrix) (signs : Option (List Nat)) :
    Except Fault Stabilizer := do
  let size := xs.height
  checkSize size
  checkDimension .xColumns size xs.columns
  checkDimension .zRows size zs.height
  checkDimension .zColumns size zs.columns
  let signs := signs.getD (List.replicate size 0)
  checkDimension .signs size signs.length
  if xs.isBinary && zs.isBinary && signs.all (· ≤ 1) then
    .ok (ofParts xs.toMatrix zs.toMatrix (signs.map (· != 0)))
  else .error (.invalidStabilizer .notBinary)
where
  checkDimension (dimension : Dimension) (expected got : Nat) : Except Fault Unit :=
    if got = expected then .ok ()
    else .error (.dimensionMismatch dimension expected got)

end Stabilizer

end StabilizerPrep
