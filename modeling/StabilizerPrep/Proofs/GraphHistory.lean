import StabilizerPrep.Proofs.LocalComplement
import StabilizerPrep.Proofs.MatrixEntries
import StabilizerPrep.Proofs.Representatives

/-!
# Histories of graphs

A graph begins as an empty one, as one that was unpacked from a number or as a
member of a family, and is then edited. What an edit does is told by which
vertices are joined afterwards, and every edit of a simple graph gives a simple
graph again, so the matrix of a graph with any history is symmetric and has an
empty diagonal. Two edits are relabellings or undo themselves: exchanging two
vertices renames them, and complementing twice at a vertex changes nothing.
-/

namespace StabilizerPrep.Matrix

set_option autoImplicit false

structure SymmetricHollow (size : Nat) (matrix : Matrix) : Prop where
  height : matrix.height = size
  columns : matrix.columns = size
  transpose : matrix.transpose = matrix
  diagonal : ∀ i, matrix.entry i i = false

end StabilizerPrep.Matrix

namespace StabilizerPrep.Graph

set_option autoImplicit false

open Mask

variable {graph : Graph}

def Edit.vertices : Edit → List Nat
  | .addEdge first second => [first, second]
  | .removeEdge first second => [first, second]
  | .isolate vertex => [vertex]
  | .clear => []
  | .addPath vertices => vertices
  | .addStar vertices => vertices
  | .complementAt vertex => [vertex]
  | .swapVertices first second => [first, second]

inductive Origin where
  | empty
  | packed (number : Nat)
  | complete
  | path
  | cycle
  | star (centre : Nat)
  | dandelion
  deriving DecidableEq, Repr

def Origin.graph? (size : Nat) : Origin → Option Graph
  | .empty => some (Graph.empty size)
  | .packed number => (decompress size number).toOption
  | .complete => some (Graph.complete size)
  | .path => some (Graph.path size)
  | .cycle => some (Graph.cycle size)
  | .star centre => star? size centre
  | .dandelion => (Graph.dandelion size).toOption

def history? (graph : Graph) (edits : List Edit) : Option Graph :=
  edits.foldlM edit? graph

theorem neighbourhood_swap_vertices (graph : Graph) {first second : Nat}
    (firstInside : first < graph.size) (secondInside : second < graph.size) (vertex : Nat) :
    (graph.swapVertices first second).neighbourhood vertex =
      swap first second (graph.neighbourhood (Equiv.swap first second vertex)) := by
  have none : swap first second 0 = 0 := by simp [swap]
  have row : ∀ other, (graph.neighbourhoods.map (swap first second)).getD other 0 =
      swap first second (graph.neighbourhood other) := by
    intro other
    have mapped := List.getD_map graph.neighbourhoods 0 (swap first second) (n := other)
    rwa [none] at mapped
  rw [swapVertices]
  split
  next same =>
      have self : ∀ mask, swap second second mask = mask := by simp [swap]
      rw [same, Equiv.swap_self, Equiv.refl_apply, self]
  next apart =>
      simp only [row]
      rw [neighbourhood, List.getD_eq_getElem?_getD, List.getElem?_set, List.getElem?_set,
        List.length_set, List.length_map, Equiv.swap_apply_def]
      change first < graph.neighbourhoods.length at firstInside
      change second < graph.neighbourhoods.length at secondInside
      by_cases isSecond : second = vertex
      · subst isSecond
        rw [if_pos rfl, if_pos secondInside, if_neg (Ne.symm apart), if_pos rfl, Option.getD_some]
      by_cases isFirst : first = vertex
      · subst isFirst
        rw [if_neg isSecond, if_pos rfl, if_pos firstInside, if_pos rfl, Option.getD_some]
      · rw [if_neg isSecond, if_neg isFirst, if_neg (Ne.symm isFirst), if_neg (Ne.symm isSecond),
          ← row vertex, List.getD_eq_getElem?_getD]

theorem adjacent_swap_vertices (graph : Graph) {first second : Nat}
    (firstInside : first < graph.size) (secondInside : second < graph.size) (one two : Nat) :
    (graph.swapVertices first second).adjacent one two =
      graph.adjacent (Equiv.swap first second one) (Equiv.swap first second two) := by
  rw [adjacent, neighbourhood_swap_vertices graph firstInside secondInside, test_bit_swap,
    adjacent, Equiv.swap_apply_def first second two]
  split_ifs <;> rfl

theorem complement_at_complement_at (simple : graph.Simple) (vertex : Nat) :
    (graph.complementAt vertex).complementAt vertex = graph := by
  apply eq_of_adjacent (by simp)
  intro one two
  have own : ∀ other, (graph.complementAt vertex).adjacent vertex other =
      graph.adjacent vertex other := by
    intro other
    rw [adjacent_complement_at simple, simple.2.1]
    simp
  rw [adjacent_complement_at (simple_complement_at simple vertex), own, own,
    adjacent_complement_at simple, Bool.bne_assoc]
  simp

@[simp] theorem size_swap_vertices (graph : Graph) (first second : Nat) :
    (graph.swapVertices first second).size = graph.size := by
  rw [swapVertices]
  split
  · rfl
  · simp [size]

theorem simple_swap_vertices (simple : graph.Simple) {first second : Nat}
    (firstInside : first < graph.size) (secondInside : second < graph.size) :
    (graph.swapVertices first second).Simple := by
  have joined := adjacent_swap_vertices graph firstInside secondInside
  apply simple_of_adjacent
  all_goals
    intro one two same
    rw [joined] at same
  · have inside := lt_of_adjacent simple same
    rw [size_swap_vertices]
    rw [Equiv.swap_apply_def] at inside
    grind
  · rintro rfl
    exact ne_of_adjacent simple same rfl
  · rw [joined, simple.2.2]
    exact same

variable {size : Nat}

theorem simple_on_of_size_zero (none : graph.size = 0) : SimpleOn 0 graph := by
  obtain ⟨masks⟩ := graph
  obtain rfl : masks = [] := List.eq_nil_of_length_eq_zero none
  exact simple_on_empty 0

namespace SimpleOn

theorem swap_vertices (own : SimpleOn size graph) {first second : Nat}
    (admitted : graph.admits (.swapVertices first second) = true) :
    SimpleOn size (graph.swapVertices first second) := by
  have sized := (size_swap_vertices graph first second).trans own.size_eq
  by_cases same : first = second
  · rwa [Graph.swapVertices, if_pos same]
  by_cases none : graph.size = 0
  · obtain rfl : 0 = size := none.symm.trans own.size_eq
    exact simple_on_of_size_zero sized
  · have inside : first < graph.size ∧ second < graph.size := by
      simpa [admits, admitsVertex, same, none] using admitted
    exact ⟨sized, simple_swap_vertices own.simple inside.1 inside.2⟩

/-- An edit that is not refused keeps the size and leaves a simple graph. -/
theorem edit (own : SimpleOn size graph) {edit : Edit} {changed : Graph}
    (done : graph.edit? edit = some changed) : SimpleOn size changed := by
  rw [edit?] at done
  split at done
  next admitted =>
      obtain rfl := Option.some.inj done
      cases edit with
      | addEdge first second => exact own.add_edge first second
      | removeEdge first second => exact own.remove_edge first second
      | isolate vertex => exact own.isolate vertex
      | clear => exact own.size_eq ▸ simple_on_empty graph.size
      | addPath vertices => exact own.add_path vertices
      | addStar vertices => exact own.add_star vertices
      | complementAt vertex =>
          exact ⟨(size_complement_at _ _).trans own.size_eq, simple_complement_at own.simple _⟩
      | swapVertices first second => exact own.swap_vertices admitted
  next => cases done

theorem of_origin {origin : Origin} {start : Graph} (begun : origin.graph? size = some start) :
    SimpleOn size start := by
  cases origin with
  | empty => exact Option.some.inj begun ▸ simple_on_empty size
  | packed number =>
      rw [Origin.graph?, decompress, checkCompressible] at begun
      split at begun
      · cases begun
      · exact Option.some.inj begun ▸ ⟨size_of_edges _ _, simple_of_edges _ _⟩
  | complete => exact Option.some.inj begun ▸ ⟨size_of_edges _ _, simple_of_edges _ _⟩
  | path => exact Option.some.inj begun ▸ (simple_on_empty size).add_path _
  | cycle => exact Option.some.inj begun ▸ simple_on_cycle size
  | star centre => exact (simple_on_empty size).edit begun
  | dandelion =>
      rw [Origin.graph?, dandelion] at begun
      split at begun
      · cases begun
      · exact Option.some.inj begun ▸ ((simple_on_empty size).add_star _).add_star _

end SimpleOn

theorem admits_path_of_inside {vertices : List Nat}
    (inside : ∀ vertex ∈ vertices, vertex < graph.size) : graph.admitsPath vertices = true := by
  induction vertices with
  | nil => rfl
  | cons first rest ih =>
      cases rest with
      | nil => rfl
      | cons second rest =>
          obtain ⟨firstInside, restInside⟩ := List.forall_mem_cons.1 inside
          have secondInside := restInside second List.mem_cons_self
          simp [admitsPath, admitsEdge, firstInside, secondInside, ih restInside]

theorem edit?_of_inside {edit : Edit} (inside : ∀ vertex ∈ edit.vertices, vertex < graph.size) :
    graph.edit? edit = some (graph.apply edit) := by
  apply if_pos
  cases edit with
  | addPath vertices => exact admits_path_of_inside inside
  | addStar vertices =>
      cases vertices with
      | nil => rfl
      | cons centre leaves =>
          obtain ⟨centreInside, leavesInside⟩ := List.forall_mem_cons.1 inside
          rw [admits, List.all_eq_true]
          intro leaf member
          simp [admitsEdge, centreInside, leavesInside leaf member]
  | _ => simp_all [Edit.vertices, admits, admitsEdge, admitsVertex]

theorem exists_history (own : SimpleOn size graph) {edits : List Edit}
    (inside : ∀ edit ∈ edits, ∀ vertex ∈ edit.vertices, vertex < size) :
    ∃ last, graph.history? edits = some last ∧ SimpleOn size last := by
  induction edits generalizing graph with
  | nil => exact ⟨graph, rfl, own⟩
  | cons edit edits ih =>
      obtain ⟨named, later⟩ := List.forall_mem_cons.1 inside
      have done := @edit?_of_inside graph edit (by rwa [own.size_eq])
      obtain ⟨last, carried, kept⟩ := ih (own.edit done) later
      refine ⟨last, ?_, kept⟩
      rw [history?, List.foldlM_cons, done]
      exact carried

theorem entry_adjacency (simple : graph.Simple) (one two : Nat) :
    graph.adjacency.entry one two = graph.adjacent one two := by
  rw [adjacency, Matrix.entry_of_rows]
  by_cases inside : two < graph.size
  · rw [decide_eq_true inside, Bool.true_and]
    rfl
  · rw [decide_eq_false inside, adjacent, test_bit_beyond (simple.1 one) (Nat.le_of_not_lt inside),
      Bool.false_and]

theorem SimpleOn.symmetric_hollow (own : SimpleOn size graph) :
    Matrix.SymmetricHollow size graph.adjacency := by
  have height : graph.adjacency.height = size :=
    (Matrix.height_of_rows _ _).trans own.size_eq
  have columns : graph.adjacency.columns = size := own.size_eq
  refine ⟨height, columns, ?_, fun vertex => ?_⟩
  · apply Matrix.eq_of_entries
    · simp [Matrix.transpose, height, columns]
    · exact height.trans columns.symm
    · intro one oneInside two twoInside
      rw [Matrix.transpose, Matrix.height_of_rows, List.length_map, List.length_range] at oneInside
      rw [Matrix.entry_transpose _ oneInside twoInside, entry_adjacency own.simple,
        entry_adjacency own.simple, own.simple.2.2]
  · rw [entry_adjacency own.simple, own.simple.2.1]

/-- Graphs stay simple under every history. Whatever graph the edits begin with,
if they name only its vertices, then none of them is refused, and the matrix of
the last graph tells which vertices are joined, is symmetric and has an empty
diagonal. In such a graph, complementing at a vertex toggles exactly the pairs of
distinct neighbours of that vertex, and doing so twice changes nothing;
exchanging two vertices is renaming them by a transposition. -/
theorem histories_stay_simple {origin : Origin} {start : Graph}
    (begun : origin.graph? size = some start) {edits : List Edit}
    (inside : ∀ edit ∈ edits, ∀ vertex ∈ edit.vertices, vertex < size) :
    ∃ last, start.history? edits = some last ∧ last.size = size ∧ last.Simple ∧
      Matrix.SymmetricHollow size last.adjacency ∧
      (∀ one two, last.adjacency.entry one two = last.adjacent one two) ∧
      (∀ vertex < size, ∃ complemented,
        last.edit? (.complementAt vertex) = some complemented ∧ complemented.size = size ∧
        (∀ one two, complemented.adjacent one two =
          (last.adjacent one two != (last.adjacent vertex one && last.adjacent vertex two &&
            decide (one ≠ two)))) ∧
        complemented.edit? (.complementAt vertex) = some last) ∧
      ∀ first < size, ∀ second < size, ∃ swapped,
        last.edit? (.swapVertices first second) = some swapped ∧ swapped.size = size ∧
        ∀ one two, swapped.adjacent one two =
          last.adjacent (Equiv.swap first second one) (Equiv.swap first second two) := by
  obtain ⟨last, carried, own⟩ := exists_history (SimpleOn.of_origin begun) inside
  refine ⟨last, carried, own.size_eq, own.simple, own.symmetric_hollow,
    entry_adjacency own.simple, ?_, ?_⟩
  · intro vertex named
    have admitted : ∀ other ∈ (Edit.complementAt vertex).vertices, other < size := by
      simpa [Edit.vertices] using named
    have after := size_complement_at last vertex
    refine ⟨last.complementAt vertex, edit?_of_inside (by rwa [own.size_eq]),
      after.trans own.size_eq, adjacent_complement_at own.simple vertex, ?_⟩
    rw [edit?_of_inside (by rwa [after, own.size_eq]), apply,
      complement_at_complement_at own.simple]
  · intro first firstNamed second secondNamed
    rw [← own.size_eq] at firstNamed secondNamed
    refine ⟨last.swapVertices first second, edit?_of_inside ?_,
      (size_swap_vertices _ _ _).trans own.size_eq,
      adjacent_swap_vertices last firstNamed secondNamed⟩
    simpa [Edit.vertices] using ⟨firstNamed, secondNamed⟩

/-- A dandelion with a history of eight edits, the last of which undoes itself. -/
theorem histories_stay_simple_dandelion :
    Origin.dandelion.graph? 6 = some ⟨[0b1110, 0b1, 0b1, 0b110001, 0b1000, 0b1000]⟩ ∧
    (Graph.mk [0b1110, 0b1, 0b1, 0b110001, 0b1000, 0b1000]).history?
        [.complementAt 3, .addEdge 1 5, .swapVertices 0 3, .removeEdge 4 5, .isolate 2,
          .addPath [2, 1, 4], .addStar [5, 0, 2], .complementAt 5] =
      some ⟨[0b110110, 0b110001, 0b101001, 0b110100, 0b1011, 0b1111]⟩ ∧
    Matrix.SymmetricHollow 6
      (Graph.mk [0b110110, 0b110001, 0b101001, 0b110100, 0b1011, 0b1111]).adjacency ∧
    ∃ undone,
      (Graph.mk [0b110110, 0b110001, 0b101001, 0b110100, 0b1011, 0b1111]).edit?
          (.complementAt 5) = some undone ∧
      undone.edit? (.complementAt 5) =
        some ⟨[0b110110, 0b110001, 0b101001, 0b110100, 0b1011, 0b1111]⟩ := by
  have begun : Origin.dandelion.graph? 6 =
      some ⟨[0b1110, 0b1, 0b1, 0b110001, 0b1000, 0b1000]⟩ := by decide
  obtain ⟨last, carried, -, -, matrix, -, complements, -⟩ := histories_stay_simple begun
    (show ∀ edit ∈ [Edit.complementAt 3, .addEdge 1 5, .swapVertices 0 3, .removeEdge 4 5,
      .isolate 2, .addPath [2, 1, 4], .addStar [5, 0, 2], .complementAt 5],
      ∀ vertex ∈ edit.vertices, vertex < 6 by decide)
  obtain rfl : last = ⟨[0b110110, 0b110001, 0b101001, 0b110100, 0b1011, 0b1111]⟩ :=
    Option.some.inj (carried.symm.trans (by decide))
  obtain ⟨undone, done, -, -, back⟩ := complements 5 (by decide)
  exact ⟨begun, carried, matrix, undone, done, back⟩

end StabilizerPrep.Graph
