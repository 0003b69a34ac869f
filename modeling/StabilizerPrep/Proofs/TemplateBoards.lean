import StabilizerPrep.Bundled.Row
import StabilizerPrep.Proofs.Board
import StabilizerPrep.Proofs.LayerCircuit

/-!
# Boards of templates

A gate `cz` toggles an edge of a graph state and a gate `swap` exchanges two
of its vertices. So a circuit of gates `h` on all qubits, followed by such
gates, prepares a graph state whose board is found gate by gate.
-/

namespace StabilizerPrep.Board

set_option autoImplicit false

open Mask

theorem test_bit_row (board vertex position : Nat) :
    (row board vertex).testBit position =
      (decide (position < 6) && board.testBit (8 * vertex + position)) := by
  rw [row_eq, show 63 = 2 ^ 6 - 1 from rfl, Nat.testBit_and, Nat.testBit_shiftRight,
    Bool.and_comm]
  congr 1
  exact Nat.testBit_two_pow_sub_one 6 position

def join (first second board : Nat) : Nat :=
  Nat.xor board (Nat.xor (single (Nat.add (Nat.mul 8 first) second))
    (single (Nat.add (Nat.mul 8 second) first)))

theorem test_bit_join {first second : Nat} (firstInside : first < 6) (secondInside : second < 6)
    (board vertex : Nat) {position : Nat} (inside : position < 6) :
    (row (join first second board) vertex).testBit position =
      ((row board vertex).testBit position !=
        (decide (vertex = first ∧ position = second) !=
          decide (vertex = second ∧ position = first))) := by
  have one : decide (8 * first + second = 8 * vertex + position) =
      decide (vertex = first ∧ position = second) := by
    apply decide_eq_decide.2
    omega
  have two : decide (8 * second + first = 8 * vertex + position) =
      decide (vertex = second ∧ position = first) := by
    apply decide_eq_decide.2
    omega
  change (row (board ^^^ (single (8 * first + second) ^^^ single (8 * second + first)))
    vertex).testBit position = _
  rw [test_bit_row, test_bit_row, Nat.testBit_xor, Nat.testBit_xor, test_bit_single,
    test_bit_single, one, two, decide_eq_true inside, Bool.true_and, Bool.true_and]

theorem decide_eq_comm (first second : Nat) : decide (first = second) = decide (second = first) :=
  decide_eq_decide.2 eq_comm

theorem row_join {first second : Nat} (firstInside : first < 6) (secondInside : second < 6)
    (board vertex : Nat) :
    row (join first second board) vertex =
      toggle (decide (second = vertex)) first
        (toggle (decide (first = vertex)) second (row board vertex)) := by
  have bound : row board vertex < 2 ^ 6 := row_lt board vertex
  refine eq_of_test_bit_below (row_lt _ _) (toggle_lt firstInside (toggle_lt secondInside bound)) ?_
  intro position inside
  rw [test_bit_join firstInside secondInside board vertex inside, test_bit_toggle, test_bit_toggle,
    Bool.decide_and, Bool.decide_and, decide_eq_comm position second,
    decide_eq_comm position first, decide_eq_comm vertex first, decide_eq_comm vertex second,
    Bool.bne_assoc]

def other (first second vertex : Nat) : Nat :=
  if vertex = first then second else if vertex = second then first else vertex

def exchangeColumns (first second board : Nat) : Nat :=
  let differ := Nat.land (Nat.xor (Nat.shiftRight board first) (Nat.shiftRight board second))
    0x10101010101
  Nat.xor board (Nat.xor (Nat.shiftLeft differ first) (Nat.shiftLeft differ second))

def exchangeRows (first second board : Nat) : Nat :=
  let differ := Nat.xor (row board first) (row board second)
  Nat.xor board (Nat.xor (Nat.shiftLeft differ (Nat.mul 8 first))
    (Nat.shiftLeft differ (Nat.mul 8 second)))

def exchange (first second board : Nat) : Nat :=
  exchangeRows first second (exchangeColumns first second board)

theorem test_bit_column : ∀ position < 48,
    Nat.testBit 0x10101010101 position = decide (position % 8 = 0) := by
  decide +kernel

theorem test_bit_shift_left_column {first : Nat} (firstInside : first < 6) (mask : Nat)
    {vertex position : Nat} (vertexInside : vertex < 6) (inside : position < 6) :
    ((mask &&& 0x10101010101) <<< first).testBit (8 * vertex + position) =
      (decide (position = first) && mask.testBit (8 * vertex)) := by
  rw [Nat.testBit_shiftLeft]
  by_cases own : position = first
  · subst own
    rw [decide_eq_true (show 8 * vertex + position ≥ position by omega), Nat.add_sub_cancel,
      Nat.testBit_and, test_bit_column _ (by omega), decide_eq_true (by omega), decide_eq_true rfl,
      Bool.and_true]
  · rw [decide_eq_false own, Bool.false_and]
    by_cases above : first ≤ 8 * vertex + position
    · have beside : ¬(8 * vertex + position - first) % 8 = 0 := by omega
      rw [Nat.testBit_and, test_bit_column _ (by omega), decide_eq_false beside, Bool.and_false,
        Bool.and_false]
    · rw [decide_eq_false above, Bool.false_and]

theorem test_bit_exchange_columns {first second : Nat} (firstInside : first < 6)
    (secondInside : second < 6) (board : Nat) {vertex position : Nat} (vertexInside : vertex < 6)
    (inside : position < 6) :
    (row (exchangeColumns first second board) vertex).testBit position =
      (row board vertex).testBit (other first second position) := by
  let differ := board >>> first ^^^ board >>> second
  have swapped : other first second position < 6 := by
    unfold other
    split_ifs <;> assumption
  change (row (board ^^^ ((differ &&& 0x10101010101) <<< first ^^^
    (differ &&& 0x10101010101) <<< second)) vertex).testBit position = _
  rw [test_bit_row, test_bit_row, decide_eq_true inside, decide_eq_true swapped, Bool.true_and,
    Bool.true_and, Nat.testBit_xor, Nat.testBit_xor,
    test_bit_shift_left_column firstInside _ vertexInside inside,
    test_bit_shift_left_column secondInside _ vertexInside inside]
  have parts : differ.testBit (8 * vertex) =
      (board.testBit (8 * vertex + first) != board.testBit (8 * vertex + second)) := by
    rw [Nat.testBit_xor, Nat.testBit_shiftRight, Nat.testBit_shiftRight, Nat.add_comm first,
      Nat.add_comm second]
  rw [parts, other]
  by_cases one : position = first
  · by_cases two : position = second
    · simp [← one, ← two]
    · simp [one, show ¬first = second by omega]
  · by_cases two : position = second
    · simp only [two, if_neg (show ¬second = first by omega), decide_eq_true, if_true,
        decide_eq_false (show ¬second = first by omega), Bool.false_and, Bool.false_bne,
        Bool.true_and]
      cases board.testBit (8 * vertex + second) <;> cases board.testBit (8 * vertex + first) <;> rfl
    · simp [one, two]

theorem test_bit_shift_left_row {mask : Nat} (bound : mask < 64) (first : Nat)
    {vertex position : Nat}
    (inside : position < 6) :
    (mask <<< (8 * first)).testBit (8 * vertex + position) =
      (decide (vertex = first) && mask.testBit position) := by
  rw [Nat.testBit_shiftLeft]
  by_cases own : vertex = first
  · subst own
    rw [decide_eq_true (show 8 * vertex + position ≥ 8 * vertex by omega), decide_eq_true rfl,
      Nat.add_sub_cancel_left]
  · rw [decide_eq_false own, Bool.false_and]
    by_cases above : 8 * first ≤ 8 * vertex + position
    · rw [test_bit_beyond (show mask < 2 ^ 6 from bound) (by omega), Bool.and_false]
    · rw [decide_eq_false above, Bool.false_and]

theorem test_bit_exchange_rows (first second board vertex : Nat) {position : Nat}
    (inside : position < 6) :
    (row (exchangeRows first second board) vertex).testBit position =
      (row board (other first second vertex)).testBit position := by
  have bound : row board first ^^^ row board second < 64 :=
    Nat.xor_lt_two_pow (show _ < 2 ^ 6 from row_lt _ _) (row_lt _ _)
  change (row (board ^^^ ((row board first ^^^ row board second) <<< (8 * first) ^^^
    (row board first ^^^ row board second) <<< (8 * second))) vertex).testBit position = _
  rw [test_bit_row, Nat.testBit_xor, Nat.testBit_xor, test_bit_shift_left_row bound first inside,
    test_bit_shift_left_row bound second inside, decide_eq_true inside, Bool.true_and,
    Nat.testBit_xor]
  have own : board.testBit (8 * vertex + position) = (row board vertex).testBit position := by
    rw [test_bit_row, decide_eq_true inside, Bool.true_and]
  rw [own, other]
  by_cases one : vertex = first
  · by_cases two : vertex = second
    · simp [← one, ← two]
    · simp [one, show ¬first = second by omega]
  · by_cases two : vertex = second
    · simp only [two, if_neg (show ¬second = first by omega), decide_eq_true, if_true,
        decide_eq_false (show ¬second = first by omega), Bool.false_and, Bool.false_bne,
        Bool.true_and]
      cases (row board first).testBit position <;> cases (row board second).testBit position <;> rfl
    · simp [one, two]

theorem test_bit_exchange {first second : Nat} (firstInside : first < 6) (secondInside : second < 6)
    (board : Nat) {vertex position : Nat} (vertexInside : vertex < 6) (inside : position < 6) :
    (row (exchange first second board) vertex).testBit position =
      (row board (other first second vertex)).testBit (other first second position) := by
  have swapped : other first second vertex < 6 := by
    unfold other
    split_ifs <;> assumption
  rw [exchange, test_bit_exchange_rows _ _ _ _ inside,
    test_bit_exchange_columns firstInside secondInside board swapped inside]

theorem test_bit_swap_eq (first second mask position : Nat) :
    (swap first second mask).testBit position = mask.testBit (other first second position) := by
  rw [test_bit_swap, other]
  split_ifs <;> rfl

theorem row_exchange {first second : Nat} (firstInside : first < 6) (secondInside : second < 6)
    (board : Nat) {vertex : Nat} (vertexInside : vertex < 6) :
    row (exchange first second board) vertex =
      swap first second (row board (other first second vertex)) := by
  refine eq_of_test_bit_below (row_lt _ _) (swap_lt firstInside secondInside (row_lt _ _)) ?_
  intro position inside
  rw [test_bit_exchange firstInside secondInside board vertexInside inside, test_bit_swap_eq]

theorem other_other (first second vertex : Nat) :
    other first second (other first second vertex) = vertex := by
  unfold other
  split_ifs <;> omega

variable {size board : Nat}

theorem simple_graph_iff :
    (graph size board).Simple ↔
      (∀ vertex < size, row board vertex < 2 ^ size) ∧
        (∀ vertex < size, (row board vertex).testBit vertex = false) ∧
        ∀ vertex < size, ∀ position < size,
          (row board vertex).testBit position = (row board position).testBit vertex := by
  rw [Graph.simple_iff_below, size_graph]
  refine and_congr ?_ (and_congr ?_ ?_)
  · refine forall_congr' fun vertex => imp_congr_right fun inside => ?_
    rw [neighbourhood_graph inside]
  · refine forall_congr' fun vertex => imp_congr_right fun inside => ?_
    rw [Graph.adjacent, neighbourhood_graph inside]
  · refine forall_congr' fun vertex => imp_congr_right fun inside => ?_
    refine forall_congr' fun position => imp_congr_right fun positionInside => ?_
    rw [Graph.adjacent, Graph.adjacent, neighbourhood_graph inside,
      neighbourhood_graph positionInside]

theorem row_lt_of_test_bit {vertex : Nat}
    (beyond : ∀ position < 6, size ≤ position → (row board vertex).testBit position = false) :
    row board vertex < 2 ^ size := by
  apply Nat.lt_pow_two_of_testBit
  intro position outside
  by_cases inside : position < 6
  · exact beyond position inside outside
  · exact test_bit_beyond (show _ < 2 ^ 6 from row_lt board vertex) (Nat.not_lt.1 inside)

theorem simple_join (small : size ≤ 6) {first second : Nat} (firstInside : first < size)
    (secondInside : second < size) (apart : first ≠ second) (simple : (graph size board).Simple) :
    (graph size (join first second board)).Simple := by
  obtain ⟨bounded, loopless, symmetric⟩ := simple_graph_iff.1 simple
  have joined := @test_bit_join first second (by omega) (by omega) board
  refine simple_graph_iff.2 ⟨?_, ?_, ?_⟩
  · intro vertex inside
    refine row_lt_of_test_bit fun position below outside => ?_
    rw [joined vertex below, test_bit_beyond (bounded vertex inside) outside,
      decide_eq_false (by omega), decide_eq_false (by omega)]
    rfl
  · intro vertex inside
    rw [joined vertex (by omega), loopless vertex inside, decide_eq_false (by omega),
      decide_eq_false (by omega)]
    rfl
  · intro vertex inside position positionInside
    have one : decide (position = first ∧ vertex = second) =
        decide (vertex = second ∧ position = first) := decide_eq_decide.2 And.comm
    have two : decide (position = second ∧ vertex = first) =
        decide (vertex = first ∧ position = second) := decide_eq_decide.2 And.comm
    rw [joined vertex (by omega), joined position (by omega),
      symmetric vertex inside position positionInside, one, two]
    cases decide (vertex = first ∧ position = second) <;>
      cases decide (vertex = second ∧ position = first) <;> rfl

theorem other_lt {first second vertex : Nat} (firstInside : first < size)
    (secondInside : second < size) (inside : vertex < size) : other first second vertex < size := by
  unfold other
  split_ifs <;> assumption

theorem simple_exchange (small : size ≤ 6) {first second : Nat} (firstInside : first < size)
    (secondInside : second < size) (simple : (graph size board).Simple) :
    (graph size (exchange first second board)).Simple := by
  obtain ⟨bounded, loopless, symmetric⟩ := simple_graph_iff.1 simple
  have moved : ∀ vertex < size, other first second vertex < size := fun vertex =>
    other_lt firstInside secondInside
  have exchanged : ∀ vertex < size, ∀ position < 6, _ := fun vertex inside position below =>
    @test_bit_exchange first second (by omega) (by omega) board vertex position (by omega) below
  refine simple_graph_iff.2 ⟨?_, ?_, ?_⟩
  · intro vertex inside
    refine row_lt_of_test_bit fun position below outside => ?_
    have fixed : other first second position = position := by
      unfold other
      rw [if_neg (by omega), if_neg (by omega)]
    rw [exchanged vertex inside position below, fixed]
    exact test_bit_beyond (bounded _ (moved vertex inside)) outside
  · intro vertex inside
    rw [exchanged vertex inside vertex (by omega)]
    exact loopless _ (moved vertex inside)
  · intro vertex inside position positionInside
    rw [exchanged vertex inside position (by omega),
      exchanged position positionInside vertex (by omega)]
    exact symmetric _ (moved vertex inside) _ (moved position positionInside)

theorem contains_graph_iff (simple : (graph size board).Simple) {x z : Nat} :
    (Stabilizer.ofGraph (graph size board)).Contains x z ↔
      x < 2 ^ size ∧ z < 2 ^ size ∧
        ∀ vertex < size, z.testBit vertex = dot x (row board vertex) := by
  rw [Stabilizer.contains_of_graph_iff_test_bit simple, size_graph]
  refine and_congr_right' (and_congr_right' ?_)
  refine forall_congr' fun vertex => imp_congr_right fun inside => ?_
  rw [neighbourhood_graph inside]

/-- The instructions prepare the graph state of the board, up to signs. -/
structure Draws (size : Nat) (instructions : List Instruction) (board : Nat) : Prop where
  wellFormed : (Circuit.mk size instructions).WellFormed
  simple : (graph size board).Simple
  contains : ∀ x z, (Circuit.mk size instructions).prepared.Contains x z ↔
    (Stabilizer.ofGraph (graph size board)).Contains x z

/-- A gate that undoes itself carries the board along if it moves the one group
into the other. -/
theorem Draws.append {instructions : List Instruction} (draws : Draws size instructions board)
    {instruction : Instruction} (fits : instruction.checkWithin size = .ok ())
    (own : instruction.inverse = instruction) {next : Nat}
    (simple : (graph size next).Simple)
    (moves : ∀ masks, Within size masks →
      ((Stabilizer.ofGraph (graph size board)).Contains masks.1 masks.2 ↔
        (Stabilizer.ofGraph (graph size next)).Contains (instruction.move masks).1
          (instruction.move masks).2)) :
    Draws size (instructions ++ [instruction]) next := by
  have formed : (Circuit.mk size (instructions ++ [instruction])).WellFormed := by
    intro member inside
    rcases List.mem_append.1 inside with earlier | last
    · exact draws.wellFormed member earlier
    · rw [List.mem_singleton.1 last]
      exact fits
  have undone := Instruction.move_inverse fits
  rw [own] at undone
  refine ⟨formed, simple, fun x z => ?_⟩
  rw [Circuit.contains_prepared_append_iff formed]
  change (∃ masks : Nat × Nat, _ ∧ instruction.move masks = (x, z)) ↔ _
  constructor
  · rintro ⟨masks, contained, moved⟩
    have drawn := (draws.contains _ _).1 contained
    have within : Within size masks := by
      have bounds := drawn.bounded
      rwa [Stabilizer.qubits_of_graph, size_graph] at bounds
    have image := (moves masks within).1 drawn
    rwa [moved] at image
  · intro contained
    have bounds := contained.bounded
    rw [Stabilizer.qubits_of_graph, size_graph] at bounds
    have within := (Instruction.isometry_move fits).within (x, z) bounds
    refine ⟨instruction.move (x, z), (draws.contains _ _).2 ((moves _ within).2 ?_),
      undone (x, z)⟩
    rwa [undone]

theorem move_cz {first second : Nat} (apart : first ≠ second) (masks : Nat × Nat) :
    (Instruction.mk .cz [first, second]).move masks =
      (masks.1, toggle (masks.1.testBit first) second
        (toggle (masks.1.testBit second) first masks.2)) := by
  change exchangeBits second (spreadBits first second (exchangeBits second masks)) = _
  simp only [exchangeBits, spreadBits, test_bit_toggle, decide_eq_false apart,
    decide_eq_false apart.symm, decide_true, Bool.and_false, Bool.bne_false, Bool.and_true]
  apply Prod.ext
  · apply Nat.eq_of_testBit_eq
    intro position
    simp only [test_bit_toggle]
    by_cases own : second = position
    · subst own
      cases masks.1.testBit second <;> cases masks.2.testBit second <;>
        cases masks.1.testBit first <;> simp
    · simp [own]
  · apply Nat.eq_of_testBit_eq
    intro position
    simp only [test_bit_toggle]
    by_cases own : second = position
    · subst own
      cases masks.1.testBit second <;> cases masks.2.testBit second <;>
        cases masks.1.testBit first <;> simp [apart]
    · simp only [decide_eq_false own, Bool.and_false, Bool.bne_false]
      cases masks.1.testBit second <;> cases masks.2.testBit second <;> simp

theorem Draws.cz (small : size ≤ 6) {instructions : List Instruction}
    (draws : Draws size instructions board) {first second : Nat} (firstInside : first < size)
    (secondInside : second < size) (apart : first ≠ second) :
    Draws size (instructions ++ [⟨.cz, [first, second]⟩]) (join first second board) := by
  have fits : (Instruction.mk .cz [first, second]).checkWithin size = .ok () :=
    Instruction.check_within_pair firstInside secondInside apart rfl
  have simple := simple_join small firstInside secondInside apart draws.simple
  refine draws.append fits rfl simple fun masks within => ?_
  rw [move_cz apart, contains_graph_iff draws.simple, contains_graph_iff simple]
  have toggled : ∀ vertex, dot masks.1 (row (join first second board) vertex) =
      ((dot masks.1 (row board vertex) != (decide (first = vertex) && masks.1.testBit second)) !=
        (decide (second = vertex) && masks.1.testBit first)) := by
    intro vertex
    rw [row_join (by omega) (by omega), dot_toggle_right, dot_toggle_right]
  simp only [within.1, within.2, true_and,
    toggle_lt secondInside (toggle_lt firstInside within.2)]
  refine forall_congr' fun vertex => imp_congr_right fun inside => ?_
  rw [toggled vertex, test_bit_toggle, test_bit_toggle, Bool.and_comm (decide (first = vertex)),
    Bool.and_comm (decide (second = vertex))]
  cases masks.2.testBit vertex <;> cases dot masks.1 (row board vertex) <;>
    cases (masks.1.testBit second && decide (first = vertex)) <;>
      cases (masks.1.testBit first && decide (second = vertex)) <;> simp

theorem contains_exchange_iff (small : size ≤ 6) (simple : (graph size board).Simple)
    {first second : Nat} (firstInside : first < size) (secondInside : second < size)
    (apart : first ≠ second) {x z : Nat} (xBound : x < 2 ^ size)
    (zBound : z < 2 ^ size) :
    (Stabilizer.ofGraph (graph size board)).Contains x z ↔
      (Stabilizer.ofGraph (graph size (exchange first second board))).Contains
        (Mask.swap first second x) (Mask.swap first second z) := by
  rw [contains_graph_iff simple,
    contains_graph_iff (simple_exchange small firstInside secondInside simple)]
  simp only [xBound, zBound, true_and, swap_lt firstInside secondInside xBound,
    swap_lt firstInside secondInside zBound]
  have bits : ∀ vertex < size,
      ((Mask.swap first second z).testBit vertex =
          dot (Mask.swap first second x) (row (exchange first second board) vertex) ↔
        z.testBit (other first second vertex) = dot x (row board (other first second vertex))) := by
    intro vertex inside
    rw [row_exchange (by omega) (by omega) board (by omega), dot_swap apart, test_bit_swap_eq]
  constructor
  · intro own vertex inside
    exact (bits vertex inside).2 (own _ (other_lt firstInside secondInside inside))
  · intro own vertex inside
    have image := other_lt firstInside secondInside inside
    have found := (bits _ image).1 (own _ image)
    rwa [other_other] at found

theorem Draws.swap (small : size ≤ 6) {instructions : List Instruction}
    (draws : Draws size instructions board) {first second : Nat} (firstInside : first < size)
    (secondInside : second < size) (apart : first ≠ second) :
    Draws size (instructions ++ [⟨.swap, [first, second]⟩]) (exchange first second board) := by
  have fits : (Instruction.mk .swap [first, second]).checkWithin size = .ok () :=
    Instruction.check_within_pair firstInside secondInside apart rfl
  have simple := simple_exchange small firstInside secondInside draws.simple
  refine draws.append fits rfl simple fun masks within => ?_
  exact contains_exchange_iff small draws.simple firstInside secondInside apart within.1 within.2

theorem hadamards_eq (size : Nat) :
    ((List.range size).map fun qubit => (⟨.h, [qubit]⟩ : Instruction)) =
      (Layer.mk (List.replicate size .h)).instructions := by
  induction size with
  | zero => rfl
  | succ size ih =>
      rw [List.range_succ, List.map_append, ih, List.replicate_succ', Layer.instructions_concat,
        List.length_replicate]
      rfl

theorem move_all_hadamards {size selection : Nat} (bound : selection < 2 ^ size) :
    Instruction.moveAll ((List.range size).map fun qubit => ⟨.h, [qubit]⟩) (0, selection) =
      (selection, 0) := by
  apply eq_of_bits_at
  intro qubit
  rw [hadamards_eq, Layer.bits_at_move_all_instructions, Nat.zero_testBit, bitsAt, Nat.zero_testBit]
  by_cases inside : qubit < size
  · have turned : (Layer.mk (List.replicate size .h)).clifford qubit = .h := by
      simp [Layer.clifford, List.getD_eq_getElem?_getD, inside]
    rw [turned]
    cases selection.testBit qubit <;> rfl
  · rw [test_bit_beyond bound (Nat.not_lt.1 inside), LocalClifford.act_false]

theorem row_zero (vertex : Nat) : row 0 vertex = 0 := by
  rw [row_eq, Nat.zero_shiftRight, Nat.zero_and]

theorem draws_hadamards (size : Nat) :
    Draws size ((List.range size).map fun qubit => ⟨.h, [qubit]⟩) 0 := by
  have formed :
      (Circuit.mk size ((List.range size).map fun qubit => ⟨.h, [qubit]⟩)).WellFormed := by
    intro instruction member
    obtain ⟨qubit, inside, rfl⟩ := List.mem_map.1 member
    exact Instruction.check_within_single (List.mem_range.1 inside) rfl
  have simple : (graph size 0).Simple := by
    refine simple_graph_iff.2 ⟨?_, ?_, ?_⟩
    · intro vertex _
      rw [row_zero]
      exact Nat.two_pow_pos size
    · intro vertex _
      rw [row_zero, Nat.zero_testBit]
    · intro vertex _ position _
      rw [row_zero, row_zero, Nat.zero_testBit, Nat.zero_testBit]
  refine ⟨formed, simple, fun x z => ?_⟩
  rw [Circuit.contains_prepared_iff formed, contains_graph_iff simple]
  constructor
  · rintro ⟨selection, bound, moved⟩
    rw [move_all_hadamards bound] at moved
    obtain ⟨rfl, rfl⟩ := Prod.mk.inj moved
    refine ⟨bound, Nat.two_pow_pos size, fun vertex _ => ?_⟩
    rw [row_zero, Nat.zero_testBit, dot_zero_right]
  · rintro ⟨xBound, zBound, bits⟩
    have none : z = 0 := by
      refine eq_of_test_bit_below zBound (Nat.two_pow_pos size) fun vertex inside => ?_
      rw [bits vertex inside, row_zero, Nat.zero_testBit, dot_zero_right]
    exact ⟨x, xBound, by rw [move_all_hadamards xBound, none]⟩

def step (board byte : Nat) : Nat :=
  bif Nat.blt byte 128 then join (Nat.mod (Nat.div byte 16) 8) (Nat.mod byte 16) board
  else exchange (Nat.mod (Nat.div byte 16) 8) (Nat.mod byte 16) board

theorem Draws.step (small : size ≤ 6) {instructions : List Instruction}
    (draws : Draws size instructions board) {byte : Nat} (firstInside : byte / 16 % 8 < size)
    (secondInside : byte % 16 < size) (apart : byte / 16 % 8 ≠ byte % 16) :
    Draws size (instructions ++ [Bundled.instruction byte]) (step board byte) := by
  rw [Bundled.instruction, Board.step]
  by_cases low : byte < 128
  · have below : Nat.blt byte 128 = true := Nat.ble_eq_true_of_le low
    rw [if_pos low, below]
    exact draws.cz small firstInside secondInside apart
  · have above : Nat.blt byte 128 = false := by
      rw [Bool.eq_false_iff]
      exact fun below => low (Nat.le_of_ble_eq_true below)
    rw [if_neg low, above]
    exact draws.swap small firstInside secondInside apart

/-- A template prepares the graph state of the board that its bytes lead to. -/
theorem draws_template (small : size ≤ 6) {bytes : List Nat}
    (inside : ∀ byte ∈ bytes, byte / 16 % 8 < size ∧ byte % 16 < size ∧
      byte / 16 % 8 ≠ byte % 16)
    {instructions : List Instruction} (draws : Draws size instructions board) :
    Draws size (instructions ++ bytes.map Bundled.instruction) (bytes.foldl step board) := by
  induction bytes generalizing instructions board with
  | nil => rwa [List.map_nil, List.append_nil]
  | cons byte bytes ih =>
      obtain ⟨firstInside, secondInside, apart⟩ := inside byte List.mem_cons_self
      have next := draws.step small firstInside secondInside apart
      have rest := ih (fun other member => inside other (List.mem_cons_of_mem _ member)) next
      rwa [List.append_assoc] at rest

end StabilizerPrep.Board
