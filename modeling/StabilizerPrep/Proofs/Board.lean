import StabilizerPrep.Proofs.LocalComplement

/-!
# Packed boards

A graph on at most six vertices is written as one number, its board, with one
byte for the neighbourhood of each vertex. On boards, local complementation,
edges and exchanges of vertices are a few operations on whole numbers, so runs
of them can be evaluated. Every operation is shown to be what it stands for on
graphs.
-/

namespace StabilizerPrep.Board

set_option autoImplicit false

open Mask

def row (board vertex : Nat) : Nat :=
  Nat.land (Nat.shiftRight board (Nat.mul 8 vertex)) 63

def graph (size board : Nat) : Graph :=
  ⟨(List.range size).map (row board)⟩

def spread (mask : Nat) : Nat :=
  Nat.land (Nat.mul mask 0x810204081) 0x10101010101

def clique (mask : Nat) : Nat :=
  Nat.xor (Nat.mul mask (spread mask)) (Nat.land (Nat.mul mask 0x10101010101) 0x201008040201)

def complement (board vertex : Nat) : Nat :=
  Nat.xor board (clique (row board vertex))

def extend (size board mask : Nat) : Nat :=
  Nat.xor (Nat.xor board (Nat.shiftLeft mask (Nat.mul 8 size)))
    (Nat.shiftLeft (spread mask) size)

theorem row_eq (board vertex : Nat) : row board vertex = board >>> (8 * vertex) &&& 63 := rfl

theorem row_lt (board vertex : Nat) : row board vertex < 64 :=
  Nat.and_lt_two_pow (board >>> (8 * vertex)) (show 63 < 2 ^ 6 by decide)

theorem row_xor (first second vertex : Nat) :
    row (first ^^^ second) vertex = row first vertex ^^^ row second vertex := by
  rw [row_eq, row_eq, row_eq, Nat.shiftRight_xor_distrib, Nat.and_xor_distrib_right]

@[simp] theorem size_graph (size board : Nat) : (graph size board).size = size := by
  simp [graph, Graph.size]

theorem neighbourhood_graph {size vertex : Nat} (inside : vertex < size) (board : Nat) :
    (graph size board).neighbourhood vertex = row board vertex := by
  simp [graph, Graph.neighbourhood, List.getD_eq_getElem?_getD, inside]

theorem row_clique : ∀ mask < 64, ∀ vertex < 6,
    row (clique mask) vertex = if mask.testBit vertex then erase vertex mask else 0 := by
  decide +kernel

theorem row_complement (board vertex : Nat) {other : Nat} (inside : other < 6) :
    row (complement board vertex) other =
      if (row board vertex).testBit other then
        row board other ^^^ erase other (row board vertex)
      else row board other := by
  have toggled := row_clique (row board vertex) (row_lt board vertex) other inside
  change row (board ^^^ clique (row board vertex)) other = _
  rw [row_xor, toggled]
  split
  · rfl
  · exact Nat.xor_zero _

theorem graph_complement {size : Nat} (small : size ≤ 6) {vertex : Nat} (inside : vertex < size)
    (board : Nat) :
    graph size (complement board vertex) = (graph size board).complementAt vertex := by
  rw [Graph.complementAt, neighbourhood_graph inside]
  simp only [graph, Graph.mk.injEq]
  apply List.ext_getElem
  · simp
  · intro other below _
    have otherInside : other < size := by simpa using below
    simp only [List.getElem_map, List.getElem_range, List.getElem_mapIdx]
    exact row_complement board vertex (by omega)

/-- The first vertices are joined in the same way. -/
def Agrees (size first second : Nat) : Prop :=
  ∀ vertex < size, ∀ other < size,
    (row first vertex).testBit other = (row second vertex).testBit other

theorem agrees_complement {size first second : Nat} (small : size ≤ 6)
    (agrees : Agrees size first second) {vertex : Nat} (inside : vertex < size) :
    Agrees size (complement first vertex) (complement second vertex) := by
  intro one oneInside two twoInside
  rw [row_complement first vertex (by omega), row_complement second vertex (by omega),
    agrees vertex inside one oneInside]
  split
  · rw [Nat.testBit_xor, Nat.testBit_xor, test_bit_erase, test_bit_erase,
      agrees vertex inside two twoInside, agrees one oneInside two twoInside]
  · exact agrees one oneInside two twoInside

def fits (size board : Nat) : Bool :=
  (List.range 6).all fun vertex =>
    Nat.blt (row board vertex) (if vertex < size then 2 ^ size else 1)

theorem row_lt_of_fits {size board vertex : Nat} (small : size ≤ 6)
    (fitting : fits size board = true) (inside : vertex < size) :
    row board vertex < 2 ^ size := by
  have bound := List.all_eq_true.1 fitting vertex (List.mem_range.2 (by omega))
  rw [if_pos inside] at bound
  exact Nat.le_of_ble_eq_true bound

theorem row_eq_zero_of_fits {size board : Nat} (small : size < 6)
    (fitting : fits size board = true) : row board size = 0 := by
  have bound := List.all_eq_true.1 fitting size (List.mem_range.2 small)
  rw [if_neg (Nat.lt_irrefl size)] at bound
  exact Nat.lt_one_iff.1 (Nat.le_of_ble_eq_true bound)

theorem row_extension : ∀ size < 6, ∀ mask < 2 ^ size, ∀ vertex < 6,
    row (mask <<< (8 * size)) vertex = (if vertex = size then mask else 0) ∧
      row (spread mask <<< size) vertex = if mask.testBit vertex then single size else 0 := by
  decide +kernel

theorem row_extend {size : Nat} (small : size < 6) (board : Nat) {mask : Nat}
    (bound : mask < 2 ^ size) {vertex : Nat} (inside : vertex < 6) :
    row (extend size board mask) vertex =
      row board vertex ^^^ (if vertex = size then mask else 0) ^^^
        if mask.testBit vertex then single size else 0 := by
  obtain ⟨ownRow, columns⟩ := row_extension size small mask bound vertex inside
  change row (board ^^^ mask <<< (8 * size) ^^^ spread mask <<< size) vertex = _
  rw [row_xor, row_xor, ownRow, columns]

theorem agrees_extend {size level board root : Nat} (small : size ≤ 6)
    (simple : (graph size board).Simple) (below : level < size) (fitting : fits level root = true)
    (agrees : Agrees level board root) :
    Agrees (level + 1) board (extend level root (row board level % 2 ^ level)) := by
  have bound := Nat.mod_lt (row board level) (Nat.two_pow_pos level)
  have joined : ∀ vertex < size, ∀ other < size,
      (row board vertex).testBit other = (row board other).testBit vertex := by
    intro vertex inside other otherInside
    have symmetric := simple.2.2 vertex other
    rwa [Graph.adjacent, Graph.adjacent, neighbourhood_graph inside,
      neighbourhood_graph otherInside] at symmetric
  have loop : (row board level).testBit level = false := by
    have alone := simple.2.1 level
    rwa [Graph.adjacent, neighbourhood_graph below] at alone
  have noRow := row_eq_zero_of_fits (by omega) fitting
  intro vertex inside other otherInside
  rw [row_extend (by omega) root bound (by omega), Nat.testBit_xor, Nat.testBit_xor]
  by_cases last : vertex = level
  · subst last
    rw [noRow, if_pos rfl, Nat.testBit_mod_two_pow, if_neg (by simp), Nat.zero_testBit]
    by_cases otherLast : other = vertex
    · subst otherLast
      simp [loop]
    · simp [show other < vertex by omega]
  · have vertexBelow : vertex < level := by omega
    rw [if_neg last, Nat.zero_testBit, Nat.testBit_mod_two_pow]
    by_cases otherLast : other = level
    · subst otherLast
      have absent := test_bit_beyond (row_lt_of_fits (by omega) fitting vertexBelow)
        (Nat.le_refl other)
      rw [absent, joined vertex (by omega) other below]
      cases value : (row board other).testBit vertex <;> simp [vertexBelow]
    · have otherBelow : other < level := by omega
      rw [agrees vertex vertexBelow other otherBelow]
      split <;> simp [show ¬level = other by omega]

theorem graph_eq_of_agrees {size first second : Nat} (agrees : Agrees size first second)
    (firstBound : ∀ vertex < size, row first vertex < 2 ^ size)
    (secondBound : ∀ vertex < size, row second vertex < 2 ^ size) :
    graph size first = graph size second := by
  simp only [graph, Graph.mk.injEq]
  apply List.map_congr_left
  intro vertex member
  have inside := List.mem_range.1 member
  exact eq_of_test_bit_below (firstBound vertex inside) (secondBound vertex inside)
    (agrees vertex inside)

/-- Complements at the vertices that the hexadecimal digits of a word name, the
lowest first. The first digit that is not below `size` ends the walk. -/
def walk (size : Nat) : Nat → Nat → Nat → Nat
  | 0, board, _ => board
  | steps + 1, board, word =>
      bif Nat.blt (Nat.mod word 16) size then
        walk size steps (complement board (Nat.mod word 16)) (Nat.div word 16)
      else board

theorem agrees_walk {size : Nat} (small : size ≤ 6) (steps word : Nat) {first second : Nat}
    (agrees : Agrees size first second) :
    Agrees size (walk size steps first word) (walk size steps second word) := by
  induction steps generalizing first second word with
  | zero => exact agrees
  | succ steps ih =>
      rw [walk, walk]
      cases named : Nat.blt (Nat.mod word 16) size
      · exact agrees
      · exact ih _ (agrees_complement small agrees (Nat.le_of_ble_eq_true named))

theorem carries_walk {size level : Nat} (small : size ≤ 6) (below : level ≤ size)
    (steps word : Nat) {board : Nat} (simple : (graph size board).Simple) :
    (graph size (walk level steps board word)).Simple ∧
      Stabilizer.LocallyEquivalent (.ofGraph (graph size board))
        (.ofGraph (graph size (walk level steps board word))) := by
  induction steps generalizing board word with
  | zero => exact ⟨simple, .refl (Stabilizer.ofGraph (graph size board))⟩
  | succ steps ih =>
      rw [walk]
      cases named : Nat.blt (Nat.mod word 16) level
      · exact ⟨simple, .refl _⟩
      · have inside : Nat.mod word 16 < size :=
          Nat.lt_of_lt_of_le (Nat.le_of_ble_eq_true named) below
        have complemented := graph_complement small inside board
        have simpleAfter : (graph size (complement board (Nat.mod word 16))).Simple := by
          rw [complemented]
          exact Graph.simple_complement_at simple _
        obtain ⟨simpleEnd, equivalent⟩ := ih (Nat.div word 16) simpleAfter
        have step := Stabilizer.carries_complement_at simple
          (show Nat.mod word 16 < (graph size board).size by rwa [size_graph])
        rw [← complemented] at step
        exact ⟨simpleEnd, .trans ⟨_, step⟩ equivalent⟩

end StabilizerPrep.Board
