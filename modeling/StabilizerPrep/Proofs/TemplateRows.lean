import StabilizerPrep.Proofs.Metrics
import StabilizerPrep.Proofs.Orbits
import StabilizerPrep.Proofs.PairRanks
import StabilizerPrep.Proofs.Survey
import StabilizerPrep.Proofs.TableText
import StabilizerPrep.Proofs.TemplateBoards

/-!
# Rows of templates

What a row of a bundled table promises, in a form that is quick to evaluate:
its gates act on coupled qubits, they draw the graph of the row, that graph is
in the class of the row, and they have the cost and the depth of the row. The
layers of a schedule are the bytes of one number.
-/

namespace StabilizerPrep.Bundled

set_option autoImplicit false

open Mask Board

def raise (levels index level : Nat) : Nat :=
  Nat.add levels (Nat.shiftLeft (Nat.sub level (byte levels index)) (Nat.mul 8 index))

theorem byte_raise {level : Nat} (small : level < 256) (levels index other : Nat) :
    byte (raise levels index level) other =
      if index = other then max (byte levels index) level else byte levels other := by
  have bound : byte levels index < 256 := Nat.mod_lt _ (by decide)
  have raised : raise levels index level =
      levels + 2 ^ (8 * index) * (level - byte levels index) := by
    change levels + (level - byte levels index) <<< (8 * index) = _
    rw [Nat.shiftLeft_eq, Nat.mul_comm]
  rw [raised, byte_add (by omega)]
  by_cases own : index = other
  · rw [if_pos own, if_pos own, ← own]
    omega
  · rw [if_neg own, if_neg own, Nat.add_zero]

theorem byte_raise_pair {level : Nat} (small : level < 256) (levels : Nat) {first second : Nat}
    (firstInside : first < 6) (secondInside : second < 6) :
    (∀ other < 6, byte (raise (raise (raise levels first level) second level) 7 level) other =
        if other = first ∨ other = second then max (byte levels other) level
        else byte levels other) ∧
      byte (raise (raise (raise levels first level) second level) 7 level) 7 =
        max (byte levels 7) level := by
  have bytes := @byte_raise level small
  constructor
  · intro other inside
    rw [bytes, if_neg (show ¬7 = other by omega), bytes, bytes, bytes]
    by_cases own : second = other
    · subst own
      by_cases same : first = second
      · simp [same]
      · simp [same]
    · by_cases same : first = other
      · simp [own, same, Ne.symm own]
      · simp [own, same, Ne.symm own, Ne.symm same]
  · rw [bytes, if_pos rfl, bytes, if_neg (by omega), bytes, if_neg (by omega)]

def nativeGates (code : Nat) : Nat :=
  bif Nat.blt code 128 then 1 else 3

def place (levels code : Nat) : Nat :=
  let first := Nat.mod (Nat.div code 16) 8
  let second := Nat.mod code 16
  let busy := bif Nat.ble (byte levels first) (byte levels second) then byte levels second
    else byte levels first
  let layer := Nat.add busy (nativeGates code)
  raise (raise (raise levels first layer) second layer) 7 layer

/-- The bytes of the number are the layers of the schedule, none of which is
beyond what has been spent. -/
structure Tracks (levels spent : Nat) (schedule : Schedule) : Prop where
  busy : ∀ qubit < 6, schedule.busy qubit = byte levels qubit
  depth : schedule.depth = byte levels 7
  bounded : ∀ qubit < 6, schedule.busy qubit ≤ spent

theorem tracks_start : Tracks 0 0 .start where
  busy qubit _ := by rw [byte_eq, Nat.zero_div]; rfl
  depth := rfl
  bounded _ _ := Nat.le_refl 0

theorem blt_eq_decide (first second : Nat) : Nat.blt first second = decide (first < second) := by
  rw [Bool.eq_iff_iff, decide_eq_true_iff]
  exact ⟨Nat.le_of_ble_eq_true, Nat.ble_eq_true_of_le⟩

theorem native_gates_eq (code : Nat) : nativeGates code = (instruction code).gate.cost := by
  rw [nativeGates, instruction, blt_eq_decide]
  by_cases low : code < 128
  · simp [low, Gate.cost]
  · simp [low, Gate.cost]

theorem place_eq (levels code : Nat) :
    let layer := max (byte levels (code / 16 % 8)) (byte levels (code % 16)) + nativeGates code
    place levels code =
      raise (raise (raise levels (code / 16 % 8) layer) (code % 16) layer) 7 layer := by
  have greater : ∀ one two : Nat, (bif Nat.ble one two then two else one) = max one two := by
    intro one two
    cases order : Nat.ble one two
    · have above : ¬one ≤ two := fun below => by
        rw [Nat.ble_eq_true_of_le below] at order
        cases order
      rw [cond_false]
      omega
    · rw [cond_true, Nat.max_eq_right (Nat.le_of_ble_eq_true order)]
  intro layer
  have same : (bif Nat.ble (byte levels (code / 16 % 8)) (byte levels (code % 16)) then
      byte levels (code % 16) else byte levels (code / 16 % 8)) + nativeGates code = layer := by
    rw [greater]
  rw [← same]
  rfl

theorem Tracks.place {levels spent code : Nat} {schedule : Schedule}
    (tracks : Tracks levels spent schedule) (first : code / 16 % 8 < 6) (second : code % 16 < 6)
    (small : spent + nativeGates code < 256) :
    Tracks (place levels code) (spent + nativeGates code) (schedule.place (instruction code)) := by
  have firstBusy := tracks.busy _ first
  have secondBusy := tracks.busy _ second
  have firstBound := tracks.bounded _ first
  have secondBound := tracks.bounded _ second
  let layer := max (schedule.busy (code / 16 % 8)) (schedule.busy (code % 16)) + nativeGates code
  have below : layer ≤ spent + nativeGates code := by omega
  have placed : schedule.place (instruction code) =
      ⟨fun qubit => if qubit = code / 16 % 8 ∨ qubit = code % 16 then layer
        else schedule.busy qubit, max schedule.depth layer⟩ := by
    simp only [layer, native_gates_eq]
    rfl
  have raised : Bundled.place levels code =
      raise (raise (raise levels (code / 16 % 8) layer) (code % 16) layer) 7 layer := by
    rw [place_eq, ← firstBusy, ← secondBusy]
  obtain ⟨others, last⟩ := byte_raise_pair (show layer < 256 by omega) levels first second
  rw [placed, raised]
  refine ⟨fun qubit inside => ?_, ?_, fun qubit inside => ?_⟩
  · rw [others qubit inside, ← tracks.busy qubit inside]
    change (if _ then layer else _) = _
    by_cases own : qubit = code / 16 % 8 ∨ qubit = code % 16
    · have later : schedule.busy qubit ≤ layer := by
        rcases own with rfl | rfl
        · exact Nat.le_trans (Nat.le_max_left _ _) (Nat.le_add_right _ _)
        · exact Nat.le_trans (Nat.le_max_right _ _) (Nat.le_add_right _ _)
      rw [if_pos own, if_pos own, Nat.max_eq_right later]
    · rw [if_neg own, if_neg own]
  · rw [last, ← tracks.depth]
  · change (if _ then layer else _) ≤ _
    split
    · exact below
    · exact Nat.le_trans (tracks.bounded qubit inside) (Nat.le_add_right _ _)

theorem Tracks.run {codes : List Nat} {levels spent : Nat} {schedule : Schedule}
    (tracks : Tracks levels spent schedule)
    (inside : ∀ code ∈ codes, code / 16 % 8 < 6 ∧ code % 16 < 6)
    (small : spent + (codes.map nativeGates).sum < 256) :
    Tracks (codes.foldl Bundled.place levels) (spent + (codes.map nativeGates).sum)
      ((codes.map instruction).foldl Schedule.place schedule) := by
  induction codes generalizing levels spent schedule with
  | nil => exact tracks
  | cons code codes ih =>
      rw [List.map_cons, List.sum_cons, ← Nat.add_assoc] at small
      obtain ⟨first, second⟩ := inside code List.mem_cons_self
      have next := tracks.place first second (by omega)
      have rest := ih next (fun later member => inside later (List.mem_cons_of_mem _ member)) small
      rwa [List.map_cons, List.map_cons, List.sum_cons, ← Nat.add_assoc, List.foldl_cons,
        List.foldl_cons]

def Row.codes (row : Row) : List Nat :=
  bytes row.gates row.gates []

def isCoupled (size coupling code : Nat) : Bool :=
  let first := Nat.mod (Nat.div code 16) 8
  let second := Nat.mod code 16
  Nat.blt first size && (Nat.blt second size && (!Nat.beq first second &&
    Nat.beq (Nat.mod (Nat.shiftRight coupling (Nat.add (Nat.mul 8 first) second)) 2) 1))

def pack (board : Nat) : List (Nat × Nat) → Nat
  | [] => 0
  | pair :: pairs =>
      Nat.add (Nat.mod (Nat.shiftRight board (Nat.add (Nat.mul 8 pair.1) pair.2)) 2)
        (Nat.mul 2 (pack board pairs))

def Row.isKept (size coupling number : Nat) (row : Row) : Bool :=
  let board := row.codes.foldl step 0
  row.codes.all (isCoupled size coupling) &&
    (Nat.beq (settle size board).2 number &&
      (Nat.beq (pack board (pairs size)) row.graphId &&
        (Nat.beq ((row.codes.map nativeGates).sum) row.cost &&
          (Nat.blt row.cost 256 &&
            Nat.beq (byte (row.codes.foldl place 0) 7) row.depth))))

def areKept (size coupling : Nat) : Nat → List Row → Bool
  | _, [] => true
  | number, row :: rows =>
      row.isKept size coupling number && areKept size coupling (Nat.succ number) rows

theorem is_kept_of_are_kept {size coupling start : Nat} {rows : List Row}
    (kept : areKept size coupling start rows = true) {index : Nat} (inside : index < rows.length) :
    (rows.get ⟨index, inside⟩).isKept size coupling (start + index) = true := by
  induction rows generalizing start index with
  | nil => cases inside
  | cons row rows ih =>
      rw [areKept, Bool.and_eq_true] at kept
      cases index with
      | zero => exact kept.1
      | succ index =>
          have later := ih kept.2 (Nat.lt_of_succ_lt_succ inside)
          rwa [Nat.succ_add_eq_add_succ] at later

theorem pack_eq (board : Nat) (pairs : List (Nat × Nat)) :
    pack board pairs = ofBits (pairs.map fun pair => board.testBit (8 * pair.1 + pair.2)) := by
  induction pairs with
  | nil => rfl
  | cons pair pairs ih =>
      change board >>> (8 * pair.1 + pair.2) % 2 + 2 * pack board pairs = _
      rw [ih, List.map_cons, ofBits, Nat.toNat_testBit, Nat.shiftRight_eq_div_pow]

theorem packed_graph {size : Nat} (small : size ≤ 6) (board : Nat) :
    (graph size board).packed = pack board (pairs size) := by
  rw [Graph.packed, size_graph, pack_eq]
  congr 1
  apply List.map_congr_left
  rintro ⟨first, second⟩ member
  have below := mem_pairs.1 member
  change (graph size board).adjacent first second = _
  rw [Graph.adjacent, neighbourhood_graph (by omega), test_bit_row, decide_eq_true (by omega),
    Bool.true_and]

theorem is_coupled_iff {size coupling code : Nat} (small : size ≤ 6) :
    isCoupled size coupling code = true ↔
      code / 16 % 8 < size ∧ code % 16 < size ∧ code / 16 % 8 ≠ code % 16 ∧
        (Board.row coupling (code / 16 % 8)).testBit (code % 16) = true := by
  have beq : ∀ first second : Nat, Nat.beq first second = true ↔ first = second :=
    fun first second => ⟨Nat.eq_of_beq_eq_true, fun same => by rw [same]; exact Nat.beq_refl _⟩
  have bit : code % 16 < 6 → ((Board.row coupling (code / 16 % 8)).testBit (code % 16) = true ↔
      coupling >>> (8 * (code / 16 % 8) + code % 16) % 2 = 1) := by
    intro below
    rw [test_bit_row, decide_eq_true below, Bool.true_and, Nat.testBit_eq_decide_div_mod_eq,
      decide_eq_true_iff, Nat.shiftRight_eq_div_pow]
  change (Nat.blt (code / 16 % 8) size && (Nat.blt (code % 16) size &&
    (!Nat.beq (code / 16 % 8) (code % 16) &&
      Nat.beq (coupling >>> (8 * (code / 16 % 8) + code % 16) % 2) 1))) = true ↔ _
  simp only [blt_eq_decide, Bool.and_eq_true, Bool.not_eq_true', ← Bool.not_eq_true, beq,
    decide_eq_true_iff]
  constructor
  · rintro ⟨first, second, apart, joined⟩
    exact ⟨first, second, apart, (bit (by omega)).2 joined⟩
  · rintro ⟨first, second, apart, joined⟩
    exact ⟨first, second, apart, (bit (by omega)).1 joined⟩

/-- What a row promises for the class with the given number: gates on coupled
qubits that draw the graph of the row, which is in the class, with the cost and
the depth of the row. -/
structure Row.Keeps (size coupling number : Nat) (row : Row) (board : Nat) : Prop where
  draws : Draws size (row.instructions size) board
  settles : (settle size board).2 = number
  graph_eq : (row.template size).graph = .ok (graph size board)
  proper : row.Proper size
  coupled : ∀ instruction ∈ (Circuit.mk size (row.instructions size)).twoQubit,
    ∃ first second, instruction.qubits = [first, second] ∧
      (graph size coupling).adjacent first second = true
  count : (Circuit.mk size (row.instructions size)).twoQubitCount = row.cost
  depth : (Circuit.mk size (row.instructions size)).twoQubitDepth = row.depth

theorem two_qubit_instructions (size : Nat) (row : Row) :
    (Circuit.mk size (row.instructions size)).twoQubit = row.codes.map instruction := by
  have front : ((List.range size).map fun qubit => (⟨.h, [qubit]⟩ : Instruction)).filter
      Instruction.isTwoQubit = [] := by
    rw [List.filter_eq_nil_iff, List.forall_mem_map]
    exact fun _ _ impossible => by cases impossible
  have back : (row.codes.map instruction).filter Instruction.isTwoQubit =
      row.codes.map instruction := by
    rw [List.filter_eq_self, List.forall_mem_map]
    exact fun _ _ => rfl
  change ((_ ++ row.codes.map instruction).filter Instruction.isTwoQubit) = _
  rw [List.filter_append, front, back, List.nil_append]

theorem Row.exists_keeps {size coupling number : Nat} {row : Row} (small : size ≤ 6)
    (kept : row.isKept size coupling number = true) :
    ∃ board, row.Keeps size coupling number board := by
  simp only [Row.isKept, Bool.and_eq_true, List.all_eq_true, is_coupled_iff small] at kept
  obtain ⟨coupled, settled, packed, counted, limited, scheduled⟩ := kept
  let board := row.codes.foldl step 0
  have draws : Draws size (row.instructions size) board := by
    refine draws_template small (fun code member => ?_) (draws_hadamards size)
    obtain ⟨first, second, apart, -⟩ := coupled code member
    exact ⟨first, second, apart⟩
  have number : (graph size board).packed = row.graphId :=
    (packed_graph small board).trans (Nat.eq_of_beq_eq_true packed)
  have cheap : row.cost < 256 := Nat.le_of_ble_eq_true limited
  have spent : (row.codes.map nativeGates).sum = row.cost := Nat.eq_of_beq_eq_true counted
  have inside : ∀ code ∈ row.codes, code / 16 % 8 < 6 ∧ code % 16 < 6 := by
    intro code member
    obtain ⟨first, second, -, -⟩ := coupled code member
    omega
  have tracked := tracks_start.run inside (by omega)
  have depth : (Circuit.mk size (row.instructions size)).twoQubitDepth = row.depth := by
    rw [Circuit.two_qubit_depth_eq, two_qubit_instructions, tracked.depth]
    exact Nat.eq_of_beq_eq_true scheduled
  have count : (Circuit.mk size (row.instructions size)).twoQubitCount = row.cost := by
    rw [Circuit.two_qubit_count_eq draws.wellFormed, two_qubit_instructions, List.map_map, ← spent]
    congr 1
    exact List.map_congr_left fun code _ => (native_gates_eq code).symm
  refine ⟨board, draws, Nat.eq_of_beq_eq_true settled, ?_, ⟨?_, ?_, ?_, draws.wellFormed⟩, ?_,
    count, depth⟩
  · have drawn := Graph.of_packed_packed draws.simple
    rw [size_graph, number] at drawn
    change Graph.decompress size row.graphId = _
    rw [Graph.decompress_of_le (Nat.le_trans small (by decide)), drawn]
  · rw [← Nat.eq_of_beq_eq_true packed, ← length_pairs size, pack_eq]
    exact Nat.lt_of_lt_of_eq (of_bits_lt _) (by rw [List.length_map])
  · exact Nat.lt_trans cheap (by decide)
  · rw [← Nat.eq_of_beq_eq_true scheduled]
    exact Nat.lt_trans (Nat.mod_lt _ (by decide)) (show 256 < Table.countBound by decide)
  · rw [two_qubit_instructions, List.forall_mem_map]
    intro code member
    obtain ⟨first, -, -, joined⟩ := coupled code member
    refine ⟨_, _, rfl, ?_⟩
    rwa [Graph.adjacent, neighbourhood_graph first]

end StabilizerPrep.Bundled
