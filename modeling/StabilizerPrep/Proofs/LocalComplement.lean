import StabilizerPrep.Proofs.GraphForm

/-!
# Local complementation

Toggling all edges between the neighbours of a vertex gives a simple graph
again, and its graph state is locally equivalent to the one before: the layer
has a phase gate between two Hadamard gates on the vertex and a phase gate on
each of its neighbours.
-/

namespace StabilizerPrep.Graph

set_option autoImplicit false

open Mask

variable {graph : Graph}

@[simp] theorem size_complement_at (graph : Graph) (vertex : Nat) :
    (graph.complementAt vertex).size = graph.size := by
  simp [complementAt, size]

theorem neighbourhood_complement_at (simple : graph.Simple) (vertex other : Nat) :
    (graph.complementAt vertex).neighbourhood other =
      if (graph.neighbourhood vertex).testBit other then
        graph.neighbourhood other ^^^ erase other (graph.neighbourhood vertex)
      else graph.neighbourhood other := by
  rw [complementAt, neighbourhood, List.getD_eq_getElem?_getD, List.getElem?_mapIdx]
  by_cases inside : other < graph.size
  · have found : graph.neighbourhoods[other]? = some (graph.neighbourhood other) := by
      rw [neighbourhood, List.getD_eq_getElem _ _ inside]
      exact List.getElem?_eq_getElem inside
    rw [found]
    rfl
  · have missing : graph.neighbourhoods[other]? = none :=
      List.getElem?_eq_none (Nat.le_of_not_lt inside)
    have outside := test_bit_beyond (simple.1 vertex) (Nat.le_of_not_lt inside)
    have empty : graph.neighbourhood other = 0 := by
      rw [neighbourhood, List.getD_eq_getElem?_getD, missing]
      rfl
    rw [outside, missing, empty]
    rfl

theorem adjacent_complement_at (simple : graph.Simple) (vertex first second : Nat) :
    (graph.complementAt vertex).adjacent first second =
      (graph.adjacent first second !=
        (graph.adjacent vertex first && graph.adjacent vertex second &&
          decide (first ≠ second))) := by
  rw [adjacent, neighbourhood_complement_at simple]
  change (if graph.adjacent vertex first then _ else _ : Nat).testBit second = _
  cases graph.adjacent vertex first
  · simp [adjacent]
  · simp only [if_true, Nat.testBit_xor, test_bit_erase, Bool.true_and]
    rfl

theorem simple_complement_at (simple : graph.Simple) (vertex : Nat) :
    (graph.complementAt vertex).Simple := by
  refine ⟨?_, ?_, ?_⟩
  · intro other
    rw [neighbourhood_complement_at simple, size_complement_at]
    split
    · refine Nat.xor_lt_two_pow (simple.1 other)
        (Nat.lt_pow_two_of_testBit _ fun position beyond => ?_)
      rw [test_bit_erase, test_bit_beyond (simple.1 vertex) beyond, Bool.false_and]
    · exact simple.1 other
  · intro other
    rw [adjacent_complement_at simple, simple.2.1]
    simp
  · intro first second
    rw [adjacent_complement_at simple, adjacent_complement_at simple, simple.2.2 first second,
      Bool.and_comm (graph.adjacent vertex first)]
    simp only [ne_comm]

def complementLayer (graph : Graph) (vertex : Nat) : Layer :=
  .ofChoice graph.size fun qubit =>
    if qubit = vertex then .hsh else if graph.adjacent vertex qubit then .s else .i

@[simp] theorem qubits_complement_layer (graph : Graph) (vertex : Nat) :
    (graph.complementLayer vertex).qubits = graph.size :=
  Layer.qubits_of_choice _ _

theorem act_x_complement_layer (graph : Graph) {vertex : Nat} (inside : vertex < graph.size)
    {x : Nat} (bound : x < 2 ^ graph.size) (z : Nat) :
    (graph.complementLayer vertex).actX x z =
      if z.testBit vertex then x ^^^ single vertex else x := by
  have images := (graph.complementLayer vertex).act_x_lt x z
  rw [qubits_complement_layer] at images
  apply eq_of_test_bit_below images
  · split
    · exact Nat.xor_lt_two_pow bound (single_lt inside)
    · exact bound
  intro qubit below
  rw [Layer.test_bit_act_x (by simpa using below), complementLayer, Layer.clifford_of_choice below]
  by_cases own : qubit = vertex
  · subst own
    rw [if_pos rfl]
    cases z.testBit qubit <;> cases value : x.testBit qubit <;> simp [value] <;> rfl
  · rw [if_neg own]
    have kept : (if z.testBit vertex then x ^^^ single vertex else x : Nat).testBit qubit =
        x.testBit qubit := by
      split
      · rw [Nat.testBit_xor, test_bit_single, decide_eq_false fun same => own same.symm,
          Bool.xor_false]
      · rfl
    rw [kept]
    cases graph.adjacent vertex qubit <;> cases x.testBit qubit <;> cases z.testBit qubit <;> rfl

theorem act_z_complement_layer (simple : graph.Simple) (vertex : Nat) {z : Nat}
    (bound : z < 2 ^ graph.size) (x : Nat) :
    (graph.complementLayer vertex).actZ x z = z ^^^ (x &&& graph.neighbourhood vertex) := by
  have images := (graph.complementLayer vertex).act_z_lt x z
  rw [qubits_complement_layer] at images
  apply eq_of_test_bit_below images
    (Nat.xor_lt_two_pow bound (Nat.and_lt_two_pow _ (simple.1 vertex)))
  intro qubit below
  rw [Layer.test_bit_act_z (by simpa using below), complementLayer, Layer.clifford_of_choice below,
    Nat.testBit_xor, Nat.testBit_and]
  change _ = (z.testBit qubit ^^ (x.testBit qubit && graph.adjacent vertex qubit))
  by_cases own : qubit = vertex
  · subst own
    rw [if_pos rfl, simple.2.1]
    cases x.testBit qubit <;> cases z.testBit qubit <;> rfl
  · rw [if_neg own]
    cases graph.adjacent vertex qubit <;> cases x.testBit qubit <;> cases z.testBit qubit <;> rfl

end StabilizerPrep.Graph

namespace StabilizerPrep.Stabilizer

set_option autoImplicit false

open Mask StabilizerPrep.Matrix

/-- Local complementation stays within the class of the graph state. -/
theorem carries_complement_at {graph : Graph} (simple : graph.Simple) {vertex : Nat}
    (inside : vertex < graph.size) :
    Carries (graph.complementLayer vertex) (ofGraph graph)
      (ofGraph (graph.complementAt vertex)) := by
  have simpleAfter := Graph.simple_complement_at simple vertex
  apply (valid_of_graph simple).carries_of_generators (valid_of_graph simpleAfter)
    (by rw [Graph.qubits_complement_layer, qubits_of_graph])
    (by rw [Graph.qubits_complement_layer, qubits_of_graph, Graph.size_complement_at])
  intro generator member
  obtain ⟨xBound, same⟩ := (contains_of_graph_iff simple).1 (contains_generator member)
  have zBound := (contains_generator member).bounded.2
  rw [qubits_of_graph] at zBound
  generalize generator.x = x, generator.z = z at *
  have bit : ∀ other, dot x (graph.neighbourhood other) = z.testBit other := by
    intro other
    rw [← same, test_bit_combine_neighbourhoods simple]
  rw [contains_of_graph_iff simpleAfter, Graph.size_complement_at]
  refine ⟨by simpa using (graph.complementLayer vertex).act_x_lt x z, ?_⟩
  rw [Graph.act_x_complement_layer graph inside xBound,
    Graph.act_z_complement_layer simple vertex zBound]
  apply Nat.eq_of_testBit_eq
  intro other
  have back : (graph.neighbourhood other).testBit vertex =
      (graph.neighbourhood vertex).testBit other := simple.2.2 other vertex
  have loop : (graph.neighbourhood vertex).testBit vertex = false := simple.2.1 vertex
  rw [test_bit_combine_neighbourhoods simpleAfter, Graph.neighbourhood_complement_at simple,
    Nat.testBit_xor, Nat.testBit_and]
  cases joined : (graph.neighbourhood vertex).testBit other
  · rw [joined] at back
    cases z.testBit vertex <;> simp [dot_xor_left, bit, back]
  · rw [joined] at back
    have erased : erase other (graph.neighbourhood vertex) =
        graph.neighbourhood vertex ^^^ single other := by
      rw [erase, joined]
      rfl
    have apart : ¬vertex = other := by
      intro equal
      rw [← equal, loop] at joined
      exact absurd joined (by decide)
    cases value : z.testBit vertex <;>
      simp [dot_xor_left, dot_xor_right, bit, back, erased, value, loop, apart]

end StabilizerPrep.Stabilizer
