import StabilizerPrep.Layer.Basic
import StabilizerPrep.Matrix.Elimination

/-!
# Finding a layer

A layer that sends a stabilizer onto a graph state is looked for as a sum of
four candidate maps on each qubit. Being sent into the group of the graph
state is a linear condition on the coefficients, so the candidates' sums that
satisfy it are the null space of a matrix. It is searched in a fixed order
for a vector that gives a Clifford on every qubit.
-/

namespace StabilizerPrep.Layer

set_option autoImplicit false

/-- The maps whose sums are all linear maps of two bits. -/
def candidates : List LocalClifford :=
  [.i, .hs, .h, .s]

/-- The largest dimension of a null space that is searched. -/
def maxNullity : Nat :=
  32

/-- One condition on the coefficients: row `a` of the transformed `Z` part
and the sum of the neighbouring rows of the transformed `X` part agree in
column `j`. Coefficient `4 i + k` belongs to candidate `k` on qubit `i`. -/
def condition (xs zs : Matrix) (graph : Graph) (a j : Nat) : Nat :=
  Mask.ofBits ((List.range xs.height).flatMap fun i =>
    candidates.map fun candidate =>
      let (x, z) := candidate.symplectic.act (xs.entry i j) (zs.entry i j)
      (graph.adjacent a i && x) != (a == i && z))

def conditions (xs zs : Matrix) (graph : Graph) : Matrix :=
  .ofRows (4 * xs.height) ((List.range xs.height).flatMap fun a =>
    (List.range xs.columns).map fun j => condition xs zs graph a j)

/-- The Clifford that four coefficients stand for. Either one of the first
two candidates takes part or one of the last two, and not both. -/
def decodeQubit (vector qubit : Nat) : Option LocalClifford :=
  let chosen := fun k => vector.testBit (4 * qubit + k)
  if (chosen 0 || chosen 1) != (chosen 2 || chosen 3) then
    LocalClifford.ofSymplectic? ((candidates.zipIdx.filter fun (_, k) => chosen k).foldl
      (fun sum (candidate, _) => sum.add candidate.symplectic) .zero)
  else none

def decode (qubits vector : Nat) : Option Layer :=
  ((List.range qubits).mapM (decodeQubit vector)).map Layer.mk

/-- The first layer among the sums of a vector and some of the given ones.
Sums without the first given vector come first. -/
def search (qubits : Nat) : List Nat → Nat → Option Layer
  | [], vector => decode qubits vector
  | basis :: others, vector =>
      match search qubits others vector with
      | some layer => some layer
      | none => search qubits others (vector ^^^ basis)

/-- A layer that sends the columns of the two parts into the group of the
graph state, if there is one. A null space that is too large is not
searched. -/
def find (xs zs : Matrix) (graph : Graph) : Option Layer :=
  if zs.height = xs.height ∧ zs.columns = xs.columns ∧ graph.size = xs.height then
    let kernel := (conditions xs zs graph).nullSpace
    if maxNullity < kernel.length then none
    else search xs.height kernel 0
  else none

end StabilizerPrep.Layer
