import StabilizerPrep.Layer.Solver
import StabilizerPrep.Proofs.LayerAction
import StabilizerPrep.Proofs.LinearSystems
import StabilizerPrep.Proofs.MatrixEntries
import StabilizerPrep.Proofs.Outcomes

/-!
# The layer solver

The coefficients of a layer solve the linear conditions exactly when the layer
sends all columns into the group of the graph state, and the test of a layer
decides the same.
-/

namespace StabilizerPrep.Mask

set_option autoImplicit false

def odd : List Bool → Bool
  | [] => false
  | value :: values => value != odd values

theorem odd_map_bne {α : Type} (items : List α) (first second : α → Bool) :
    odd (items.map fun item => first item != second item) =
      (odd (items.map first) != odd (items.map second)) := by
  induction items with
  | nil => rfl
  | cons item items ih =>
      simp only [List.map_cons, odd, ih]
      cases first item <;> cases second item <;> simp

theorem odd_map_false {α : Type} (items : List α) (values : α → Bool)
    (none : ∀ item ∈ items, values item = false) : odd (items.map values) = false := by
  induction items with
  | nil => rfl
  | cons item items ih =>
      rw [List.map_cons, odd, none item List.mem_cons_self,
        ih fun other member => none other (List.mem_cons_of_mem _ member)]
      rfl

theorem odd_map_own {items : List Nat} (distinct : items.Nodup) {own : Nat} (member : own ∈ items)
    (values : Nat → Bool) :
    odd (items.map fun item => own == item && values item) = values own := by
  induction items with
  | nil => simp at member
  | cons first items ih =>
      obtain ⟨fresh, distinctRest⟩ := List.nodup_cons.1 distinct
      rw [List.map_cons, odd]
      rcases List.mem_cons.1 member with rfl | later
      · rw [odd_map_false]
        · simp
        intro other otherMember
        have apart : own ≠ other := fun equal => fresh (equal ▸ otherMember)
        simp [apart]
      · have apart : own ≠ first := fun equal => fresh (equal ▸ later)
        rw [ih distinctRest later, beq_false_of_ne apart, Bool.false_and, Bool.false_bne]

theorem dot_of_bits_map (width : Nat) (values : Nat → Bool) (start mask : Nat) :
    dot (mask >>> start) (ofBits ((List.range' start width).map values)) =
      odd ((List.range' start width).map fun position =>
        mask.testBit position && values position) := by
  induction width generalizing start with
  | zero => simp [ofBits, odd]
  | succ width ih =>
      rw [List.range'_succ, List.map_cons, List.map_cons, odd, dot_halves, test_bit_of_bits_cons,
        of_bits_cons_div_two, Nat.testBit_shiftRight, Nat.add_zero, ← Nat.shiftRight_succ, ih]

end StabilizerPrep.Mask

namespace StabilizerPrep.Layer

set_option autoImplicit false

open Mask StabilizerPrep.Matrix

def code : LocalClifford → Nat
  | .i => 0b0001
  | .hs => 0b0010
  | .sh => 0b0011
  | .h => 0b0100
  | .s => 0b1000
  | .hsh => 0b1100

theorem decode_qubit_eq_some_iff (vector qubit : Nat) (clifford : LocalClifford) :
    decodeQubit vector qubit = some clifford ↔
      ∀ k < 4, vector.testBit (4 * qubit + k) = (code clifford).testBit k := by
  have numbered : candidates.zipIdx = [(.i, 0), (.hs, 1), (.h, 2), (.s, 3)] := rfl
  have four : (∀ k < 4, vector.testBit (4 * qubit + k) = (code clifford).testBit k) ↔
      vector.testBit (4 * qubit + 0) = (code clifford).testBit 0 ∧
        vector.testBit (4 * qubit + 1) = (code clifford).testBit 1 ∧
        vector.testBit (4 * qubit + 2) = (code clifford).testBit 2 ∧
        vector.testBit (4 * qubit + 3) = (code clifford).testBit 3 := by
    constructor
    · intro each
      exact ⟨each 0 (by decide), each 1 (by decide), each 2 (by decide), each 3 (by decide)⟩
    · rintro ⟨zero, one, two, three⟩ k inside
      obtain rfl | rfl | rfl | rfl : k = 0 ∨ k = 1 ∨ k = 2 ∨ k = 3 := by omega
      · exact zero
      · exact one
      · exact two
      · exact three
  rw [four]
  simp only [decodeQubit, numbered, List.filter_cons, List.filter_nil]
  generalize vector.testBit (4 * qubit + 0) = zero
  generalize vector.testBit (4 * qubit + 1) = one
  generalize vector.testBit (4 * qubit + 2) = two
  generalize vector.testBit (4 * qubit + 3) = three
  revert zero one two three
  cases clifford <;> decide

def encode (layer : Layer) : Nat :=
  ofTest (4 * layer.qubits) fun position =>
    (code (layer.clifford (position / 4))).testBit (position % 4)

theorem test_bit_encode {layer : Layer} {qubit k : Nat} (inside : qubit < layer.qubits)
    (below : k < 4) :
    layer.encode.testBit (4 * qubit + k) = (code (layer.clifford qubit)).testBit k := by
  have quotient : (4 * qubit + k) / 4 = qubit := by omega
  have remainder : (4 * qubit + k) % 4 = k := by omega
  rw [encode, test_bit_of_test, quotient, remainder, decide_eq_true (by omega), Bool.true_and]

/-- A vector stands for a layer when it agrees with its coefficients. -/
theorem decode_eq_some_iff (qubits vector : Nat) (layer : Layer) :
    decode qubits vector = some layer ↔
      layer.qubits = qubits ∧ ∀ qubit < qubits, ∀ k < 4,
        vector.testBit (4 * qubit + k) = (code (layer.clifford qubit)).testBit k := by
  obtain ⟨cliffords⟩ := layer
  have unwrapped : decode qubits vector = some ⟨cliffords⟩ ↔
      (List.range qubits).map (decodeQubit vector) = cliffords.map some := by
    rw [← mapM_eq_some_iff, decode]
    cases (List.range qubits).mapM (decodeQubit vector) <;> simp
  rw [unwrapped]
  constructor
  · intro same
    have length : cliffords.length = qubits := by
      have lengths := congrArg List.length same
      simpa using lengths.symm
    refine ⟨length, ?_⟩
    intro qubit inside
    rw [← decode_qubit_eq_some_iff]
    have entry := congrArg (fun list => list[qubit]?) same
    have below : qubit < cliffords.length := by omega
    simpa [inside, below, Layer.clifford, List.getD_eq_getElem?_getD] using entry
  · rintro ⟨length, bits⟩
    have length : cliffords.length = qubits := length
    apply List.ext_getElem
    · simp [length]
    · intro qubit _ inside
      have below : qubit < cliffords.length := by simpa using inside
      have decoded := (decode_qubit_eq_some_iff vector qubit _).2 (bits qubit (by omega))
      rw [List.getElem_map, List.getElem_range, List.getElem_map, decoded]
      simp [Layer.clifford, below]

variable {xs zs : Matrix} {graph : Graph}

/-- Every transformed column is in the group of the graph state: its `Z` bits
are the sums of its `X` bits over the neighbours. -/
def Lands (layer : Layer) (xs zs : Matrix) (graph : Graph) : Prop :=
  ∀ a < xs.height, ∀ j < xs.columns,
    odd ((List.range xs.height).map fun i =>
        graph.adjacent a i && ((layer.clifford i).act (xs.entry i j) (zs.entry i j)).1) =
      ((layer.clifford a).act (xs.entry a j) (zs.entry a j)).2

def term (xs zs : Matrix) (graph : Graph) (a j i : Nat) (candidate : LocalClifford) : Bool :=
  (graph.adjacent a i && (candidate.act (xs.entry i j) (zs.entry i j)).1) !=
    (a == i && (candidate.act (xs.entry i j) (zs.entry i j)).2)

theorem condition_eq (xs zs : Matrix) (graph : Graph) (a j : Nat) :
    condition xs zs graph a j =
      ofBits ((List.range xs.height).flatMap fun i => candidates.map (term xs zs graph a j i)) :=
  rfl

theorem condition_lt (xs zs : Matrix) (graph : Graph) (a j : Nat) :
    condition xs zs graph a j < 2 ^ (4 * xs.height) := by
  have length : ((List.range xs.height).flatMap fun i =>
      candidates.map (term xs zs graph a j i)).length = 4 * xs.height := by
    rw [List.length_flatMap]
    simp [candidates, Nat.mul_comm]
  have bound := of_bits_lt ((List.range xs.height).flatMap fun i =>
    candidates.map (term xs zs graph a j i))
  rwa [length] at bound

theorem rows_conditions (xs zs : Matrix) (graph : Graph) :
    (conditions xs zs graph).rows = (List.range xs.height).flatMap fun a =>
      (List.range xs.columns).map fun j => condition xs zs graph a j := by
  apply rows_of_rows
  intro row member
  obtain ⟨a, _, inner⟩ := List.mem_flatMap.1 member
  obtain ⟨j, _, rfl⟩ := List.mem_map.1 inner
  exact condition_lt xs zs graph a j

/-- A condition adds up the terms that the coefficients choose on each qubit. -/
theorem dot_blocks (terms : Nat → LocalClifford → Bool) (vector start length : Nat) :
    dot (ofBits ((List.range' start length).flatMap fun i => candidates.map (terms i)))
        (vector >>> (4 * start)) =
      odd ((List.range' start length).map fun i =>
        odd [terms i .i && vector.testBit (4 * i + 0), terms i .hs && vector.testBit (4 * i + 1),
          terms i .h && vector.testBit (4 * i + 2), terms i .s && vector.testBit (4 * i + 3)]) := by
  induction length generalizing start with
  | zero => simp [ofBits, odd]
  | succ length ih =>
      have listed : candidates.map (terms start) =
          [terms start .i, terms start .hs, terms start .h, terms start .s] := rfl
      have shifted : vector >>> (4 * start) / 2 / 2 / 2 / 2 = vector >>> (4 * (start + 1)) := by
        rw [← Nat.shiftRight_succ, ← Nat.shiftRight_succ, ← Nat.shiftRight_succ,
          ← Nat.shiftRight_succ]
        rfl
      have bit : ∀ k, (vector >>> (4 * start + k)).testBit 0 = vector.testBit (4 * start + k) := by
        intro k
        rw [Nat.testBit_shiftRight, Nat.add_zero]
      have rest := ih (start + 1)
      rw [List.range'_succ, List.flatMap_cons, listed, List.map_cons, odd, ← rest, ← shifted]
      simp only [List.cons_append, List.nil_append, dot_of_bits_cons, odd,
        ← Nat.shiftRight_succ]
      rw [show vector >>> (4 * start) = vector >>> (4 * start + 0) from rfl, bit 0, bit (0 + 1),
        bit (0 + 1 + 1), bit (0 + 1 + 1 + 1)]
      generalize dot _ _ = later
      cases terms start .i && vector.testBit (4 * start + 0) <;>
        cases terms start .hs && vector.testBit (4 * start + 1) <;>
          cases terms start .h && vector.testBit (4 * start + 2) <;>
            cases terms start .s && vector.testBit (4 * start + 3) <;> cases later <;> rfl

theorem odd_chosen (clifford : LocalClifford) (joined own x z : Bool) :
    odd ([(LocalClifford.i, 0), (.hs, 1), (.h, 2), (.s, 3)].map fun (candidate, k) =>
        ((joined && (candidate.act x z).1) != (own && (candidate.act x z).2)) &&
          (code clifford).testBit k) =
      ((joined && (clifford.act x z).1) != (own && (clifford.act x z).2)) := by
  revert joined own x z
  cases clifford <;> decide

theorem dot_condition {layer : Layer} {vector : Nat}
    (coded : ∀ qubit < xs.height, ∀ k < 4,
      vector.testBit (4 * qubit + k) = (code (layer.clifford qubit)).testBit k)
    {a : Nat} (inside : a < xs.height) (j : Nat) :
    dot (condition xs zs graph a j) vector =
      (odd ((List.range xs.height).map fun i =>
          graph.adjacent a i && ((layer.clifford i).act (xs.entry i j) (zs.entry i j)).1) !=
        ((layer.clifford a).act (xs.entry a j) (zs.entry a j)).2) := by
  have blocks := dot_blocks (term xs zs graph a j) vector 0 xs.height
  rw [Nat.mul_zero, Nat.shiftRight_zero, ← List.range_eq_range', ← condition_eq] at blocks
  have own := odd_map_own (List.nodup_range (n := xs.height)) (List.mem_range.2 inside) fun i =>
    ((layer.clifford i).act (xs.entry i j) (zs.entry i j)).2
  rw [blocks, ← own, ← odd_map_bne]
  congr 1
  apply List.map_congr_left
  intro i member
  have below := List.mem_range.1 member
  rw [coded i below 0 (by decide), coded i below 1 (by decide), coded i below 2 (by decide),
    coded i below 3 (by decide)]
  exact odd_chosen (layer.clifford i) (graph.adjacent a i) (a == i) (xs.entry i j) (zs.entry i j)

theorem kills_conditions_iff {layer : Layer} {vector : Nat}
    (coded : ∀ qubit < xs.height, ∀ k < 4,
      vector.testBit (4 * qubit + k) = (code (layer.clifford qubit)).testBit k) :
    Kills (conditions xs zs graph).rows vector ↔ layer.Lands xs zs graph := by
  rw [Kills, rows_conditions]
  constructor
  · intro killed a aInside j jInside
    have even := killed (condition xs zs graph a j) (List.mem_flatMap.2
      ⟨a, List.mem_range.2 aInside, List.mem_map.2 ⟨j, List.mem_range.2 jInside, rfl⟩⟩)
    rw [dot_condition coded aInside] at even
    simpa using even
  · intro lands row member
    obtain ⟨a, aMember, inner⟩ := List.mem_flatMap.1 member
    obtain ⟨j, jMember, rfl⟩ := List.mem_map.1 inner
    rw [dot_condition coded (List.mem_range.1 aMember),
      lands a (List.mem_range.1 aMember) j (List.mem_range.1 jMember)]
    exact bne_self_eq_false _

theorem entry_transform {layer : Layer} (qubits : layer.qubits = xs.height)
    (heights : zs.height = xs.height) (columns : zs.columns = xs.columns) {i : Nat}
    (inside : i < xs.height) (j : Nat) :
    (layer.transform xs zs).1.entry i j =
        ((layer.clifford i).act (xs.entry i j) (zs.entry i j)).1 ∧
      (layer.transform xs zs).2.entry i j =
        ((layer.clifford i).act (xs.entry i j) (zs.entry i j)).2 := by
  have cliffordInside : i < layer.cliffords.length := by
    rw [← qubits] at inside
    exact inside
  have xInside : i < xs.rows.length := inside
  have zInside : i < zs.rows.length := by
    rw [← heights] at inside
    exact inside
  have row : (layer.cliffords.zip (xs.rows.zip zs.rows))[i]? =
      some (layer.clifford i, xs.rows.getD i 0, zs.rows.getD i 0) := by
    rw [List.getElem?_eq_getElem (by simp only [List.length_zip]; omega), List.getElem_zip,
      List.getElem_zip, clifford, List.getD_eq_getElem _ _ cliffordInside,
      List.getD_eq_getElem _ _ xInside, List.getD_eq_getElem _ _ zInside]
  have mixed : ∀ takeX takeZ : Bool,
      (mixRows takeX takeZ (xs.rows.getD i 0) (zs.rows.getD i 0)).testBit j =
        ((takeX && xs.entry i j) != (takeZ && zs.entry i j)) := by
    intro takeX takeZ
    rw [mixRows, Nat.testBit_xor, entry, entry]
    cases takeX <;> cases takeZ <;> simp
  by_cases below : j < xs.columns
  · simp only [transform, entry_of_rows, below, decide_true, Bool.true_and,
      List.getD_eq_getElem?_getD, List.getElem?_map, row, Option.map_some, Option.getD_some]
    exact ⟨mixed _ _, mixed _ _⟩
  · have outside := Nat.le_of_not_lt below
    rw [entry_of_columns_le xs i outside, entry_of_columns_le zs i (by rwa [columns]),
      LocalClifford.act_false]
    exact ⟨entry_of_columns_le _ i outside, entry_of_columns_le _ i outside⟩

theorem height_transform {layer : Layer} (qubits : layer.qubits = xs.height)
    (heights : zs.height = xs.height) :
    (layer.transform xs zs).1.height = xs.height ∧
      (layer.transform xs zs).2.height = xs.height := by
  have rows : (layer.cliffords.zip (xs.rows.zip zs.rows)).length = xs.height := by
    rw [List.length_zip, List.length_zip]
    change min layer.qubits (min xs.height zs.height) = xs.height
    omega
  simp only [transform, height_of_rows, List.length_map]
  exact ⟨rows, rows⟩

theorem height_adjacency (graph : Graph) : graph.adjacency.height = graph.size := by
  rw [Graph.adjacency, height_of_rows]
  rfl

theorem entry_adjacency_mul (graph : Graph) {matrix : Matrix} (size : graph.size = matrix.height)
    {a j : Nat} (inside : a < matrix.height) (below : j < matrix.columns) :
    (graph.adjacency.mul matrix).entry a j =
      odd ((List.range matrix.height).map fun i => graph.adjacent a i && matrix.entry i j) := by
  have row : graph.adjacency.rows.getD a 0 = graph.neighbourhood a % 2 ^ matrix.height := by
    rw [Graph.adjacency, ofRows, size, Graph.neighbourhood, List.getD_eq_getElem?_getD,
      List.getD_eq_getElem?_getD, List.getElem?_map]
    cases graph.neighbourhoods[a]? <;> simp
  have sum := dot_of_bits_map matrix.height (fun i => matrix.entry i j) 0
    (graph.neighbourhood a % 2 ^ matrix.height)
  rw [Nat.shiftRight_zero, ← List.range_eq_range'] at sum
  rw [entry_mul _ _ (by rwa [height_adjacency, size]) below, row, sum]
  congr 1
  apply List.map_congr_left
  intro i member
  rw [Nat.testBit_mod_two_pow, decide_eq_true (List.mem_range.1 member), Bool.true_and]
  rfl

theorem entry_test {layer : Layer} (qubits : layer.qubits = xs.height)
    (size : graph.size = xs.height) (heights : zs.height = xs.height)
    (columns : zs.columns = xs.columns) {a j : Nat} (inside : a < xs.height)
    (below : j < xs.columns) :
    ((graph.adjacency.mul (layer.transform xs zs).1).add (layer.transform xs zs).2).entry a j =
      (odd ((List.range xs.height).map fun i =>
          graph.adjacent a i && ((layer.clifford i).act (xs.entry i j) (zs.entry i j)).1) !=
        ((layer.clifford a).act (xs.entry a j) (zs.entry a j)).2) := by
  obtain ⟨xHeight, zHeight⟩ := height_transform qubits heights
  have summed := entry_adjacency_mul graph (size.trans xHeight.symm) (by rwa [xHeight])
    (show j < (layer.transform xs zs).1.columns from below)
  rw [entry_add (graph.adjacency.mul (layer.transform xs zs).1) (layer.transform xs zs).2
      (by rwa [height_mul, height_adjacency, size]) (by rwa [zHeight]) below, summed, xHeight,
    (entry_transform qubits heights columns inside j).2]
  congr 2
  apply List.map_congr_left
  intro i member
  rw [(entry_transform qubits heights columns (List.mem_range.1 member) j).1]

/-- The test accepts a layer of the right size whose columns all land in the
group of the graph state. -/
theorem reaches_iff (layer : Layer) :
    layer.reaches xs zs graph = true ↔
      (layer.qubits = xs.height ∧ graph.size = xs.height ∧ zs.height = xs.height ∧
        zs.columns = xs.columns) ∧ layer.Lands xs zs graph := by
  unfold reaches
  simp only
  split
  next sized =>
      obtain ⟨qubits, size, heights, columns⟩ := sized
      have height : ((graph.adjacency.mul (layer.transform xs zs).1).add
          (layer.transform xs zs).2).height = xs.height := by
        rw [height_add, height_mul, height_adjacency, size, (height_transform qubits heights).2,
          Nat.min_self]
      rw [is_zero_iff, height, and_iff_right ⟨qubits, size, heights, columns⟩]
      refine forall_congr' fun a => imp_congr_right fun inside => ?_
      refine forall_congr' fun j => imp_congr_right fun below => ?_
      rw [entry_test qubits size heights columns inside below, bne_eq_false_iff_eq]
  next missized =>
      constructor
      · intro impossible
        cases impossible
      · rintro ⟨sized, -⟩
        exact absurd sized missized

end StabilizerPrep.Layer
