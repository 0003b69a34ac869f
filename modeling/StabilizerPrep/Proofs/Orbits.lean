import StabilizerPrep.Proofs.Routes

/-!
# Every graph state belongs to a class

The vertices of a graph are added one after the other. As long as the first
ones form a root, the route of the next vertex leads to a root with one vertex
more, and the walk does not leave the class. So every simple graph on at most
six vertices is locally equivalent to a root, and by their graph form so are
all valid stabilizers on at most six qubits.
-/

namespace StabilizerPrep.Board

set_option autoImplicit false

open Mask

/-- Follows the route of the next vertex of a board whose first vertices form
the root with the given number. -/
def advance (level : Nat) (state : Nat × Nat) : Nat × Nat :=
  let route := route level state.2 (Nat.mod (row state.1 level) (2 ^ level))
  (walk (level + 1) longestWalk state.1 (Nat.div route 4096), Nat.mod route 4096)

/-- A board on which the first vertices form a root, and the number of the
root. -/
def settle : Nat → Nat → Nat × Nat
  | 0, board => (board, 0)
  | level + 1, board => advance level (settle level board)

/-- The board is in the class of the given one, and its first vertices form the
root with the given number. -/
structure Settled (size board level : Nat) (state : Nat × Nat) : Prop where
  simple : (graph size state.1).Simple
  equivalent : Stabilizer.LocallyEquivalent (.ofGraph (graph size board))
    (.ofGraph (graph size state.1))
  inside : state.2 < classes level
  agrees : Agrees level state.1 (root level state.2)

theorem settled_advance {size board level : Nat} (small : size ≤ 6) (below : level < size)
    {state : Nat × Nat} (settled : Settled size board level state) :
    Settled size board (level + 1) (advance level state) := by
  let mask := row state.1 level % 2 ^ level
  have fitting := roots_fit level (by omega) state.2 settled.inside
  have arrival := routes_arrive level (by omega) state.2 settled.inside mask
    (Nat.mod_lt _ (Nat.two_pow_pos _))
  rw [arrives, Bool.and_eq_true] at arrival
  have numbered : Nat.mod (route level state.2 mask) 4096 < classes (level + 1) :=
    Nat.le_of_ble_eq_true arrival.1
  have arrived := Nat.eq_of_beq_eq_true arrival.2
  obtain ⟨simple, equivalent⟩ := carries_walk small (show level + 1 ≤ size by omega) longestWalk
    (Nat.div (route level state.2 mask) 4096) settled.simple
  have extended := agrees_extend small settled.simple below fitting settled.agrees
  have walked := agrees_walk (show level + 1 ≤ 6 by omega) longestWalk
    (Nat.div (route level state.2 mask) 4096) extended
  rw [arrived] at walked
  exact ⟨simple, settled.equivalent.trans equivalent, numbered, walked⟩

theorem settled_settle {size board : Nat} (small : size ≤ 6) (simple : (graph size board).Simple)
    (level : Nat) (below : level ≤ size) : Settled size board level (settle level board) := by
  induction level with
  | zero =>
      refine ⟨simple, .refl _, Nat.zero_lt_one, ?_⟩
      intro vertex impossible
      omega
  | succ level ih => exact settled_advance small below (ih (by omega))

/-- A simple graph is in the class of the root on which its board settles. -/
theorem locally_equivalent_settle {size board : Nat} (small : size ≤ 6)
    (simple : (graph size board).Simple) :
    (settle size board).2 < classes size ∧
      (graph size (root size (settle size board).2)).Simple ∧
      Stabilizer.LocallyEquivalent (.ofGraph (graph size board))
        (.ofGraph (graph size (root size (settle size board).2))) := by
  have settled := settled_settle small simple size (Nat.le_refl size)
  have fitting := roots_fit size (by omega) _ settled.inside
  have same : graph size (settle size board).1 =
      graph size (root size (settle size board).2) := by
    refine graph_eq_of_agrees settled.agrees ?_ fun vertex inside =>
      row_lt_of_fits small fitting inside
    intro vertex inside
    have bound := settled.simple.1 vertex
    rwa [neighbourhood_graph inside, size_graph] at bound
  rw [← same]
  exact ⟨settled.inside, settled.simple, settled.equivalent⟩

def ofRows : List Nat → Nat
  | [] => 0
  | row :: rows => row + 256 * ofRows rows

theorem row_of_rows {rows : List Nat} (bounded : ∀ row ∈ rows, row < 64) (vertex : Nat) :
    row (ofRows rows) vertex = rows.getD vertex 0 := by
  induction rows generalizing vertex with
  | nil => simp [ofRows, row_eq]
  | cons first rows ih =>
      have firstBound := bounded first List.mem_cons_self
      cases vertex with
      | zero =>
          rw [row_eq, ofRows, Nat.mul_zero, Nat.shiftRight_zero, List.getD_cons_zero,
            show 63 = 2 ^ 6 - 1 from rfl, Nat.and_two_pow_sub_one_eq_mod]
          omega
      | succ vertex =>
          have later := ih (fun row member => bounded row (List.mem_cons_of_mem _ member)) vertex
          have shifted : (first + 256 * ofRows rows) >>> 8 = ofRows rows := by
            rw [Nat.shiftRight_eq_div_pow]
            omega
          rw [row_eq] at later
          rw [row_eq, ofRows, show 8 * (vertex + 1) = 8 + 8 * vertex by omega,
            Nat.shiftRight_add, shifted, later, List.getD_cons_succ]

theorem graph_of_rows {graph : Graph} (simple : graph.Simple) (small : graph.size ≤ 6) :
    Board.graph graph.size (ofRows graph.neighbourhoods) = graph := by
  have bounded : ∀ row ∈ graph.neighbourhoods, row < 64 := by
    intro row member
    refine Nat.lt_of_lt_of_le (Stabilizer.neighbourhood_lt simple row member) ?_
    exact Nat.pow_le_pow_right (by decide) small
  cases graph with
  | mk neighbourhoods =>
      simp only [Board.graph, Graph.mk.injEq]
      apply List.ext_getElem
      · simp [Graph.size]
      · intro vertex _ inside
        rw [List.getElem_map, List.getElem_range, row_of_rows bounded,
          List.getD_eq_getElem _ _ inside]

end StabilizerPrep.Board

namespace StabilizerPrep.Stabilizer

set_option autoImplicit false

/-- Every valid stabilizer on at most six qubits is locally equivalent to the
graph state of a root. -/
theorem Valid.locally_equivalent_root {stabilizer : Stabilizer} (valid : stabilizer.Valid)
    (small : stabilizer.qubits ≤ 6) :
    ∃ number < Board.classes stabilizer.qubits,
      (Board.graph stabilizer.qubits (Board.root stabilizer.qubits number)).Simple ∧
      LocallyEquivalent stabilizer
        (ofGraph (Board.graph stabilizer.qubits (Board.root stabilizer.qubits number))) := by
  obtain ⟨layer, graph, simple, carries⟩ := valid.exists_graph
  have size : graph.size = stabilizer.qubits := by
    rw [← carries.source, carries.target, qubits_of_graph]
  have board := Board.graph_of_rows simple (by rwa [size])
  rw [size] at board
  obtain ⟨inside, rootSimple, equivalent⟩ := Board.locally_equivalent_settle small
    (show (Board.graph stabilizer.qubits (Board.ofRows graph.neighbourhoods)).Simple by
      rwa [board])
  rw [board] at equivalent
  exact ⟨_, inside, rootSimple, .trans ⟨layer, carries⟩ equivalent⟩

end StabilizerPrep.Stabilizer
