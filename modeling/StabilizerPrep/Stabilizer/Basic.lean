import StabilizerPrep.Graph.Basic
import StabilizerPrep.Pauli.Text
import StabilizerPrep.Tableau

/-!
# Stabilizers

A stabilizer on `n` qubits is a list of `n` Hermitian Pauli operators. It is
valid when they commute and none of them is a product of others; then they
generate the group that fixes one state.
-/

namespace StabilizerPrep

set_option autoImplicit false

structure Stabilizer where
  generators : List Generator
  bounded : ∀ generator ∈ generators,
    generator.x < 2 ^ generators.length ∧
      generator.z < 2 ^ generators.length

namespace Stabilizer

instance : DecidableEq Stabilizer := fun first second =>
  match first, second with
  | ⟨generators, _⟩, ⟨generators', _⟩ =>
      if same : generators = generators' then .isTrue (by subst same; rfl)
      else .isFalse (by intro equal; injection equal; exact same ‹_›)

/-- The stabilizer with the given generators, each cut off at the last
qubit. -/
def ofGenerators (generators : List Generator) : Stabilizer where
  generators := generators.map fun generator =>
    { generator with
      x := generator.x % 2 ^ generators.length
      z := generator.z % 2 ^ generators.length }
  bounded := by
    intro generator member
    obtain ⟨wide, _, rfl⟩ := List.mem_map.1 member
    have positive := Nat.two_pow_pos generators.length
    simp only [List.length_map]
    exact ⟨Nat.mod_lt _ positive, Nat.mod_lt _ positive⟩

def qubits (stabilizer : Stabilizer) : Nat :=
  stabilizer.generators.length

def paulis (stabilizer : Stabilizer) : List Pauli :=
  stabilizer.generators.map (Generator.toPauli stabilizer.qubits)

def pauli? (stabilizer : Stabilizer) (index : Nat) : Option Pauli :=
  stabilizer.paulis[index]?

def texts (stabilizer : Stabilizer) : List String :=
  stabilizer.paulis.map Pauli.text

/-- The texts of the generators, unless there are more qubits than a mask has
places. -/
def texts? (stabilizer : Stabilizer) : Option (List String) :=
  stabilizer.paulis.mapM Pauli.text?

def text (stabilizer : Stabilizer) : String :=
  "[" ++ ", ".intercalate stabilizer.texts ++ "]"

def checkSize (qubits : Nat) : Except Fault Unit :=
  if qubits = 0 then .error (.invalidStabilizer .noGenerators)
  else if Pauli.maxQubits < qubits then
    .error (.tooManyQubits qubits Pauli.maxQubits)
  else .ok ()

def generatorOf (qubits : Nat) (pauli : Pauli) : Except Fault Generator :=
  if pauli.qubits ≠ qubits then
    .error (.dimensionMismatch .generatorLength qubits pauli.qubits)
  else
    match pauli.sign with
    | none => .error (.invalidPauli pauli.text .notHermitian)
    | some negative => .ok ⟨pauli.x, pauli.z, negative⟩

def ofPaulis (paulis : List Pauli) : Except Fault Stabilizer := do
  checkSize paulis.length
  let generators ← paulis.mapM (generatorOf paulis.length)
  .ok (ofGenerators generators)

def ofTexts (texts : List String) : Except Fault Stabilizer := do
  let paulis ← texts.mapM Pauli.parse
  ofPaulis paulis

/-- The stabilizer of the graph state: generator `j` is `X` on vertex `j` and
`Z` on its neighbours. -/
def ofGraph (graph : Graph) : Stabilizer :=
  ofGenerators (graph.neighbourhoods.mapIdx fun vertex mask =>
    ⟨Mask.single vertex, mask, false⟩)

def ofCircuit (circuit : Circuit) : Except Fault Stabilizer := do
  checkSize circuit.width
  let tableau ← Tableau.ofCircuit circuit
  ofPaulis tableau.paulis

end Stabilizer

end StabilizerPrep
