import StabilizerPrep.Entanglement.Representative
import StabilizerPrep.Proofs.GraphCode

/-!
# Representative graphs

Every edit of a graph keeps it simple, so the graph of a structure is simple
whatever the roles are. It is drawn from the groups as they are found by size
and place, and so is the number of the roles.
-/

namespace StabilizerPrep

set_option autoImplicit false

namespace Graph

open Mask

variable {graph : Graph} {size : Nat}

structure SimpleOn (size : Nat) (graph : Graph) : Prop where
  size_eq : graph.size = size
  simple : graph.Simple

theorem adjacent_modify_erase (masks : List Nat) (vertex member first second : Nat) :
    (Graph.mk (masks.modify vertex (erase member))).adjacent first second =
      ((Graph.mk masks).adjacent first second &&
        decide ¬(first = vertex ∧ second = member)) := by
  simp only [adjacent, neighbourhood, List.getD_eq_getElem?_getD, List.getElem?_modify]
  by_cases own : vertex = first
  · subst own
    cases masks[vertex]? <;> simp [test_bit_erase, eq_comm]
  · cases masks[first]? <;> simp [own, Ne.symm own]

theorem adjacent_remove_edge (graph : Graph) (first second one two : Nat) :
    (graph.removeEdge first second).adjacent one two = true ↔
      graph.adjacent one two = true ∧
        ¬((one, two) = (first, second) ∨ (two, one) = (first, second)) := by
  rw [removeEdge, adjacent_modify_erase, adjacent_modify_erase, Bool.and_eq_true,
    Bool.and_eq_true, decide_eq_true_eq, decide_eq_true_eq, and_assoc]
  apply and_congr Iff.rfl
  simp only [Prod.mk.injEq]
  rw [not_or, @and_comm (two = first)]

theorem adjacent_isolate (graph : Graph) (vertex one two : Nat) :
    (graph.isolate vertex).adjacent one two = true ↔
      graph.adjacent one two = true ∧ one ≠ vertex ∧ two ≠ vertex := by
  simp only [isolate, adjacent, neighbourhood, List.getD_eq_getElem?_getD, List.getElem?_set,
    List.getElem?_map, List.length_map]
  by_cases own : vertex = one
  · have gone : ((if vertex < graph.neighbourhoods.length then some 0 else none).getD 0) = 0 := by
      split <;> rfl
    rw [if_pos own, gone]
    simp [own]
  · rw [if_neg own]
    cases graph.neighbourhoods[one]? <;> simp [Ne.symm own, test_bit_erase, ne_comm]

@[grind ←] theorem simple_on_empty (size : Nat) : SimpleOn size (empty size) :=
  ⟨size_empty size, simple_empty size⟩

@[grind ←] theorem SimpleOn.add_edge (drawn : SimpleOn size graph) (first second : Nat) :
    SimpleOn size (graph.addEdge first second) :=
  ⟨(size_add_edge graph first second).trans drawn.size_eq, simple_add_edge drawn.simple _ _⟩

@[grind ←] theorem SimpleOn.remove_edge (drawn : SimpleOn size graph) (first second : Nat) :
    SimpleOn size (graph.removeEdge first second) := by
  have kept : (graph.removeEdge first second).size = graph.size := by
    simp [Graph.removeEdge, Graph.size]
  refine ⟨kept.trans drawn.size_eq, simple_of_adjacent ?_ ?_ ?_⟩
  all_goals
    intro one two joined
    rw [adjacent_remove_edge] at joined
    obtain ⟨old, other⟩ := joined
  · rw [kept]
    exact lt_of_adjacent drawn.simple old
  · exact ne_of_adjacent drawn.simple old
  · rw [adjacent_remove_edge, drawn.simple.2.2, or_comm]
    exact ⟨old, other⟩

@[grind ←] theorem SimpleOn.isolate (drawn : SimpleOn size graph) (vertex : Nat) :
    SimpleOn size (graph.isolate vertex) := by
  have kept : (graph.isolate vertex).size = graph.size := by
    simp [Graph.isolate, Graph.size]
  refine ⟨kept.trans drawn.size_eq, simple_of_adjacent ?_ ?_ ?_⟩
  all_goals
    intro one two joined
    rw [adjacent_isolate] at joined
    obtain ⟨old, other⟩ := joined
  · rw [kept]
    exact lt_of_adjacent drawn.simple old
  · exact ne_of_adjacent drawn.simple old
  · rw [adjacent_isolate, drawn.simple.2.2]
    exact ⟨old, other.symm⟩

@[grind ←] theorem SimpleOn.add_path (drawn : SimpleOn size graph) (vertices : List Nat) :
    SimpleOn size (graph.addPath vertices) := by
  fun_induction Graph.addPath graph vertices with
  | case1 graph first second rest ih => exact ih (drawn.add_edge first second)
  | case2 => exact drawn

@[grind ←] theorem SimpleOn.add_star (drawn : SimpleOn size graph) (vertices : List Nat) :
    SimpleOn size (graph.addStar vertices) := by
  cases vertices with
  | nil => exact drawn
  | cons centre leaves =>
      rw [Graph.addStar]
      induction leaves generalizing graph with
      | nil => exact drawn
      | cons leaf leaves ih => exact ih (drawn.add_edge centre leaf)

@[grind ←] theorem SimpleOn.add_pair (drawn : SimpleOn size graph) (roles : Roles) (ordinal : Nat) :
    SimpleOn size (graph.addPair roles ordinal) :=
  drawn.add_edge _ _

@[grind ←] theorem SimpleOn.add_line_of_pairs (drawn : SimpleOn size graph) (roles : Roles) :
    SimpleOn size (graph.addLineOfPairs roles) :=
  ((drawn.add_pair roles 0).add_pair roles 1).add_edge _ _

@[grind ←] theorem simple_on_star (size centre : Nat) : SimpleOn size (star size centre) :=
  (simple_on_empty size).add_star _

@[grind ←] theorem simple_on_cycle (size : Nat) : SimpleOn size (cycle size) := by
  have path : SimpleOn size (path size) := (simple_on_empty size).add_path _
  rw [cycle]
  split
  · exact path.add_edge _ _
  · exact path

end Graph

theorem Structure.simple_on_graph (roles : Roles) (kind : Structure) :
    Graph.SimpleOn kind.qubits (kind.graph roles) := by
  cases kind with
  | two kind => cases kind <;> simp only [graph, qubits, TwoQubits.graph] <;> grind
  | three kind => cases kind <;> simp only [graph, qubits, ThreeQubits.graph] <;> grind
  | four kind => cases kind <;> simp only [graph, qubits, FourQubits.graph] <;> grind
  | five kind => cases kind <;> simp only [graph, qubits, FiveQubits.graph] <;> grind
  | six kind => cases kind <;> simp only [graph, qubits, SixQubits.graph] <;> grind

section Groups

variable {first second : Roles} (same : first.group = second.group)

include same

theorem Roles.vertex_congr : first.vertex = second.vertex := by
  funext size ordinal position
  rw [vertex, same, vertex]

theorem Structure.graph_congr (kind : Structure) : kind.graph first = kind.graph second := by
  have vertices := Roles.vertex_congr same
  have pairs : ∀ graph : Graph, graph.addPair first = graph.addPair second := by
    intro graph
    funext ordinal
    rw [Graph.addPair, vertices, Graph.addPair]
  have lines : ∀ graph : Graph, graph.addLineOfPairs first = graph.addLineOfPairs second := by
    intro graph
    rw [Graph.addLineOfPairs, pairs, pairs, vertices, Graph.addLineOfPairs]
  cases kind with
  | two kind => rfl
  | three kind => cases kind <;> simp only [graph, ThreeQubits.graph, pairs]
  | four kind => cases kind <;> simp only [graph, FourQubits.graph, pairs, same, vertices]
  | five kind => cases kind <;> simp only [graph, FiveQubits.graph, pairs, lines, same, vertices]
  | six kind => cases kind <;> simp only [graph, SixQubits.graph, pairs, lines, same, vertices]

theorem Shape.rank?_congr (shape : Shape) : shape.rank? first = shape.rank? second := by
  have vertices : first.vertex? = second.vertex? := by
    funext size ordinal position
    rw [Roles.vertex?, same, Roles.vertex?]
  cases shape <;> simp only [rank?, same, vertices]

end Groups

end StabilizerPrep
