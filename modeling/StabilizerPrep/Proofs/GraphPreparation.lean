import StabilizerPrep.Proofs.PairRanks
import StabilizerPrep.Proofs.Recombination
import StabilizerPrep.Proofs.TemplateBoards
import StabilizerPrep.Sampling.Choices

/-!
# Circuits that prepare graph states

The gates `cz` of the edges of a graph join the edges one after the other, and
no edge is joined twice. So behind gates `h` on all qubits they prepare the graph
state, and the state has the class number on which the board of the graph settles.
-/

namespace StabilizerPrep.Board

set_option autoImplicit false

open Mask

variable {size board : Nat}

def joinAll (board : Nat) (edges : List (Nat × Nat)) : Nat :=
  edges.foldl (fun board edge => join edge.1 edge.2 board) board

theorem Draws.edges (small : size ≤ 6) {edges : List (Nat × Nat)}
    (inside : ∀ edge ∈ edges, edge.1 < edge.2 ∧ edge.2 < size) {instructions : List Instruction}
    (draws : Draws size instructions board) :
    Draws size (instructions ++ edges.map fun edge => ⟨.cz, [edge.1, edge.2]⟩)
      (joinAll board edges) := by
  induction edges generalizing instructions board with
  | nil => rwa [List.map_nil, List.append_nil]
  | cons edge edges ih =>
      obtain ⟨ascending, below⟩ := inside edge List.mem_cons_self
      have next := draws.cz small (by omega) below (Nat.ne_of_lt ascending)
      have rest := ih (fun other member => inside other (List.mem_cons_of_mem _ member)) next
      rwa [List.append_assoc] at rest

theorem test_bit_join_all {edges : List (Nat × Nat)} (distinct : edges.Nodup)
    (inside : ∀ edge ∈ edges, edge.1 < edge.2 ∧ edge.2 < 6) (vertex : Nat) {position : Nat}
    (below : position < 6) :
    (row (joinAll board edges) vertex).testBit position =
      ((row board vertex).testBit position !=
        (decide ((vertex, position) ∈ edges) != decide ((position, vertex) ∈ edges))) := by
  induction edges generalizing board with
  | nil => simp [joinAll]
  | cons edge edges ih =>
      obtain ⟨first, second⟩ := edge
      obtain ⟨fresh, others⟩ := List.nodup_cons.1 distinct
      have bounds := inside _ List.mem_cons_self
      change (row (joinAll (join first second board) edges) vertex).testBit position = _
      rw [ih others fun other member => inside other (List.mem_cons_of_mem _ member),
        test_bit_join (by omega) (by omega) board vertex below]
      grind

theorem graph_join_all {graph : Graph} (simple : graph.Simple) (small : graph.size ≤ 6)
    (drawn : (Board.graph graph.size (joinAll 0 graph.edges)).Simple) :
    Board.graph graph.size (joinAll 0 graph.edges) = graph := by
  have inside : ∀ edge ∈ graph.edges, edge.1 < edge.2 ∧ edge.2 < 6 := by
    intro edge member
    obtain ⟨ascending, below, -⟩ := Graph.mem_edges.1 member
    exact ⟨ascending, by omega⟩
  have distinct : graph.edges.Nodup := (nodup_pairs graph.size).filter _
  apply Graph.eq_of_adjacent (size_graph _ _)
  intro first second
  rw [Bool.eq_iff_iff]
  by_cases bounds : first < graph.size ∧ second < graph.size
  · obtain ⟨firstInside, secondInside⟩ := bounds
    rw [Graph.adjacent, neighbourhood_graph firstInside, test_bit_join_all distinct inside first
      (by omega), row_zero, Nat.zero_testBit]
    have loop := simple.2.1 first
    have symmetric := simple.2.2 first second
    simp only [Graph.mem_edges]
    grind
  · -- neither graph has an edge that leaves it
    have own : ∀ {other : Graph}, other.Simple → other.size = graph.size →
        ¬other.adjacent first second = true := by
      intro other otherSimple same joined
      have back := joined
      rw [otherSimple.2.2] at back
      have firstInside := Graph.lt_of_adjacent otherSimple back
      have secondInside := Graph.lt_of_adjacent otherSimple joined
      omega
    exact iff_of_false (own drawn (size_graph _ _)) (own simple rfl)

end StabilizerPrep.Board

namespace StabilizerPrep.Graph

set_option autoImplicit false

/-- The gates of a graph prepare its graph state, up to signs. -/
theorem draws_preparation {graph : Graph} (simple : graph.Simple) (small : graph.size ≤ 6) :
    graph.preparation.WellFormed ∧
      ∀ x z, graph.preparation.prepared.Contains x z ↔ (Stabilizer.ofGraph graph).Contains x z := by
  have inside : ∀ edge ∈ graph.edges, edge.1 < edge.2 ∧ edge.2 < graph.size := by
    intro edge member
    obtain ⟨ascending, below, -⟩ := mem_edges.1 member
    exact ⟨ascending, below⟩
  have draws := (Board.draws_hadamards graph.size).edges small inside
  have contains := draws.contains
  rw [Board.graph_join_all simple small draws.simple] at contains
  exact ⟨draws.wellFormed, contains⟩

end StabilizerPrep.Graph

namespace StabilizerPrep.Stabilizer

set_option autoImplicit false

theorem classify_of_graph {graph : Graph} (simple : graph.Simple) (large : 2 ≤ graph.size)
    (small : graph.size ≤ 6) :
    ∃ found, classify (ofGraph graph) = .ok found ∧
      found.id = (Board.settle graph.size (Board.ofRows graph.neighbourhoods)).2 := by
  have board := Board.graph_of_rows simple small
  have onBoard : (Board.graph graph.size (Board.ofRows graph.neighbourhoods)).Simple := by
    rwa [board]
  obtain ⟨listed, rootSimple, equivalent⟩ := Board.locally_equivalent_settle small onBoard
  rw [board] at equivalent
  have qubits : (ofGraph graph).qubits = graph.size := qubits_of_graph
  rw [← qubits] at large small listed rootSimple equivalent
  obtain ⟨found, classified, settled, -⟩ :=
    (valid_of_graph simple).classify_of_root large small listed rootSimple equivalent
  rw [qubits] at settled
  exact ⟨found, classify_of_some classified, settled⟩

end StabilizerPrep.Stabilizer
