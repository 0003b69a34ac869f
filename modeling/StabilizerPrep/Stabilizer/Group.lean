import StabilizerPrep.Stabilizer.Parts

/-!
# The group of a stabilizer

Validity, membership and sign of an operator in the group that the generators
span, the list of all its elements, and the two ways in which stabilizers are
compared.
-/

namespace StabilizerPrep.Stabilizer

set_option autoImplicit false

/-- The X part above the Z part: the columns are the generators. -/
def checkMatrix (stabilizer : Stabilizer) : Matrix :=
  stabilizer.xPart.stack stabilizer.zPart

/-- Whether every generator of one stabilizer commutes with every generator
of the other. -/
def commutesWith (first second : Stabilizer) : Bool :=
  first.generators.all fun generator => second.generators.all generator.commutes

/-- Accepts generators that are independent and commute. -/
def validate (stabilizer : Stabilizer) : Except Fault Unit :=
  let rank := stabilizer.checkMatrix.rank
  if rank ≠ stabilizer.qubits then
    .error (.invalidStabilizer (.dependent rank stabilizer.qubits))
  else if stabilizer.commutesWith stabilizer then .ok ()
  else .error (.invalidStabilizer .notCommuting)

def isValid (stabilizer : Stabilizer) : Bool :=
  match stabilizer.validate with
  | .ok _ => true
  | .error _ => false

/-- The factors other than the identity that the generators place on a
qubit. -/
def factorsAt (stabilizer : Stabilizer) (qubit : Nat) : List Factor :=
  (stabilizer.generators.map fun generator =>
      Factor.ofBits (generator.x.testBit qubit) (generator.z.testBit qubit)).filter
    (· ≠ .i)

/-- Whether a qubit fails to carry one fixed factor in all generators. -/
def isEntangled (stabilizer : Stabilizer) (qubit : Nat) : Bool :=
  match stabilizer.factorsAt qubit with
  | [] => false
  | first :: others => others.any (· ≠ first)

/-- Whether a qubit is entangled. A qubit outside is refused, unless there is
no generator to look at. -/
def isEntangled? (stabilizer : Stabilizer) (qubit : Nat) : Option Bool :=
  if stabilizer.qubits = 0 ∨ qubit < stabilizer.qubits then
    some (stabilizer.isEntangled qubit)
  else none

def entangledMask (stabilizer : Stabilizer) : Nat :=
  Mask.ofTest stabilizer.qubits stabilizer.isEntangled

/-- All products of the operators in a list. Element `k` has the factors that
are the bits of `k`, with earlier operators to the right. -/
def products (qubits : Nat) : List Pauli → List Pauli
  | [] => [.identity qubits]
  | pauli :: others =>
      (products qubits others).flatMap fun product => [product, product * pauli]

/-- All elements of the group, with exact phases. -/
def elements (stabilizer : Stabilizer) : List Pauli :=
  products stabilizer.qubits stabilizer.paulis

/-- The number of bytes that an operator takes in a list. -/
def elementBytes : Nat :=
  32

/-- The number of bytes that no list reaches. -/
def listBytes : Nat :=
  2 ^ 63

/-- The list of all elements of the group, if they fit into a list. -/
def expand? (stabilizer : Stabilizer) : Option (List Pauli) :=
  if elementBytes * 2 ^ stabilizer.qubits < listBytes then some stabilizer.elements else none

/-- The product of the selected generators, from left to right. -/
def product (stabilizer : Stabilizer) (selection : Nat) : Pauli :=
  (stabilizer.paulis.zipIdx.filter fun (_, index) => selection.testBit index).foldl
    (fun result (pauli, _) => result * pauli) (.identity stabilizer.qubits)

/-- The sign that the group gives to the operator with the given masks, true
for minus, if the operator is in the group up to sign. -/
def signInGroup (stabilizer : Stabilizer) (x z : Nat) : Option Bool := do
  let width := 2 ^ stabilizer.qubits
  let target := x % width + width * (z % width)
  let selection ← stabilizer.checkMatrix.solve target
  (stabilizer.product selection).sign

def signOf (stabilizer : Stabilizer) (pauli : Pauli) : Option Bool :=
  stabilizer.signInGroup pauli.x pauli.z

/-- The same group up to signs. -/
def sameUpToSigns (first second : Stabilizer) : Bool :=
  first.qubits == second.qubits && first.commutesWith second

/-- The same group, signs included. -/
def equivalent (first second : Stabilizer) : Bool :=
  first.sameUpToSigns second &&
    second.paulis.all fun pauli => first.signOf pauli == pauli.sign

/-- Replaces the generator `target` by its product with the generator
`source`. -/
def multiply (stabilizer : Stabilizer) (target source : Nat) :
    Except Fault Stabilizer :=
  let size := stabilizer.qubits
  let outside := fun index => .error (.dimensionMismatch .generatorIndex size index)
  match stabilizer.pauli? target, stabilizer.pauli? source with
  | none, _ => outside target
  | _, none => outside source
  | some left, some right =>
      if target = source then .error (.invalidStabilizer .selfProduct)
      else
        match (left * right).sign with
        | none => .error (.invalidStabilizer (.productNotHermitian target source))
        | some negative =>
            .ok (ofGenerators (stabilizer.generators.set target
              ⟨left.x ^^^ right.x, left.z ^^^ right.z, negative⟩))

end StabilizerPrep.Stabilizer
