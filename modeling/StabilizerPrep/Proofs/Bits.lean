import Mathlib.Data.List.Nodup
import Mathlib.Tactic.Conv
import Mathlib.Tactic.SplitIfs
import StabilizerPrep.Matrix.Basic

/-!
# Bits of masks

Masks are compared bit by bit: every operation on masks has one lemma that
tells its bits, and a mask below a power of two is determined by its bits
below the exponent. The number of members modulo two is additive, so the
parity of a common part is a bilinear form, written `dot`.
-/

namespace StabilizerPrep.Mask

set_option autoImplicit false

theorem test_bit_beyond {mask width position : Nat} (bound : mask < 2 ^ width)
    (outside : width ≤ position) : mask.testBit position = false := by
  apply Nat.testBit_lt_two_pow
  exact Nat.lt_of_lt_of_le bound (Nat.pow_le_pow_right (by decide) outside)

theorem lt_of_test_bit_last {mask width : Nat} (bound : mask < 2 ^ (width + 1))
    (absent : mask.testBit width = false) : mask < 2 ^ width := by
  apply Nat.lt_pow_two_of_testBit
  intro position beyond
  rcases Nat.eq_or_lt_of_le beyond with rfl | above
  · exact absent
  · exact test_bit_beyond bound above

theorem eq_of_test_bit_below {first second width : Nat} (firstBound : first < 2 ^ width)
    (secondBound : second < 2 ^ width)
    (same : ∀ position, position < width → first.testBit position = second.testBit position) :
    first = second := by
  apply Nat.eq_of_testBit_eq
  intro position
  by_cases inside : position < width
  · exact same position inside
  · rw [test_bit_beyond firstBound (by omega), test_bit_beyond secondBound (by omega)]

theorem xor_xor_xor_cancel (common first second : Nat) :
    (common ^^^ first) ^^^ (common ^^^ second) = first ^^^ second := by
  calc
    (common ^^^ first) ^^^ (common ^^^ second) = (common ^^^ common) ^^^ (first ^^^ second) := by
      ac_rfl
    _ = first ^^^ second := by rw [Nat.xor_self, Nat.zero_xor]

theorem single_lt {position width : Nat} (inside : position < width) :
    single position < 2 ^ width :=
  Nat.pow_lt_pow_right (by decide) inside

@[simp] theorem test_bit_single (member position : Nat) :
    (single member).testBit position = decide (member = position) :=
  Nat.testBit_two_pow

theorem test_bit_of_bits_cons (bit : Bool) (bits : List Bool) :
    (ofBits (bit :: bits)).testBit 0 = bit := by
  rw [test_bit_of_bits]
  rfl

theorem of_bits_cons_div_two (bit : Bool) (bits : List Bool) :
    ofBits (bit :: bits) / 2 = ofBits bits := by
  have bound : bit.toNat ≤ 1 := by cases bit <;> decide
  simp only [ofBits]
  omega

theorem test_bit_of_test (width : Nat) (test : Nat → Bool) (position : Nat) :
    (ofTest width test).testBit position = (decide (position < width) && test position) := by
  rw [ofTest, test_bit_of_bits, List.getD_eq_getElem?_getD, List.getElem?_map]
  by_cases inside : position < width
  · simp [inside]
  · simp [inside]

theorem of_bits_bits {width mask : Nat} (bound : mask < 2 ^ width) :
    ofBits (bits width mask) = mask := by
  have length : ofBits (bits width mask) < 2 ^ width := of_test_lt width _
  apply eq_of_test_bit_below length bound
  intro position inside
  change (ofTest width mask.testBit).testBit position = _
  rw [test_bit_of_test, decide_eq_true inside, Bool.true_and]

theorem of_bits_map_eq_single {positions : List Nat} (distinct : positions.Nodup) {k : Nat}
    (inside : k < positions.length) :
    ofBits (positions.map fun other => decide (other = positions[k])) = single k := by
  apply Nat.eq_of_testBit_eq
  intro position
  rw [test_bit_of_bits, test_bit_single, List.getD_eq_getElem?_getD, List.getElem?_map]
  by_cases below : position < positions.length
  · rw [List.getElem?_eq_getElem below, Option.map_some, Option.getD_some]
    exact decide_eq_decide.2 (distinct.getElem_inj_iff.trans eq_comm)
  · rw [List.getElem?_eq_none (Nat.le_of_not_lt below)]
    exact (decide_eq_false (by omega)).symm

theorem test_bit_toggle (condition : Bool) (member mask position : Nat) :
    (toggle condition member mask).testBit position =
      (mask.testBit position != (condition && decide (member = position))) := by
  cases condition <;> simp [toggle, Nat.testBit_xor]

theorem test_bit_erase (member mask position : Nat) :
    (erase member mask).testBit position =
      (mask.testBit position && decide (member ≠ position)) := by
  rw [erase, test_bit_toggle]
  by_cases same : member = position
  · subst same
    simp
  · simp [same]

theorem test_bit_swap (first second mask position : Nat) :
    (swap first second mask).testBit position =
      if position = first then mask.testBit second
      else if position = second then mask.testBit first
      else mask.testBit position := by
  unfold swap
  by_cases same : mask.testBit first = mask.testBit second
  · rw [if_pos same]
    split_ifs with isFirst isSecond
    · rw [isFirst, same]
    · rw [isSecond, same]
    · rfl
  · have flipped : mask.testBit second = !mask.testBit first := by
      cases valueFirst : mask.testBit first <;> cases valueSecond : mask.testBit second <;>
        simp_all
    rw [if_neg same]
    simp only [Nat.testBit_xor, test_bit_single]
    have distinct : first ≠ second := fun equal => same (by rw [equal])
    split_ifs with isFirst isSecond
    · subst isFirst
      simp [flipped, distinct.symm]
    · subst isSecond
      simp [flipped, distinct]
    · simp [Ne.symm isFirst, Ne.symm isSecond]

/-- The lower mask is found in the bits below the width, the upper one above
them. -/
theorem test_bit_beside {lower width : Nat} (bound : lower < 2 ^ width)
    (upper position : Nat) :
    (lower + 2 ^ width * upper).testBit position =
      if position < width then lower.testBit position else upper.testBit (position - width) := by
  rw [Nat.add_comm]
  exact Nat.testBit_two_pow_mul_add upper bound position

theorem weight_below_xor_mod_two (width first second : Nat) :
    weightBelow width (first ^^^ second) % 2 =
      (weightBelow width first + weightBelow width second) % 2 := by
  induction width generalizing first second with
  | zero => rfl
  | succ width ih =>
      have low : (first ^^^ second) % 2 = (first % 2 + second % 2) % 2 := by
        have odd := Nat.xor_mod_two_eq_one (a := first) (b := second)
        omega
      have high : (first ^^^ second) / 2 = first / 2 ^^^ second / 2 := Nat.xor_div_two
      have rest := ih (first / 2) (second / 2)
      simp only [weightBelow, high]
      omega

theorem weight_below_zero (width : Nat) : weightBelow width 0 = 0 := by
  induction width with
  | zero => rfl
  | succ width ih => simp [weightBelow, ih]

theorem weight_below_eq_weight_below (first second mask : Nat) (firstBound : mask < 2 ^ first)
    (secondBound : mask < 2 ^ second) :
    weightBelow first mask = weightBelow second mask := by
  induction first generalizing second mask with
  | zero =>
      have empty : mask = 0 := Nat.lt_one_iff.1 firstBound
      rw [empty, weight_below_zero, weight_below_zero]
  | succ first ih =>
      cases second with
      | zero =>
          have empty : mask = 0 := Nat.lt_one_iff.1 secondBound
          rw [empty, weight_below_zero, weight_below_zero]
      | succ second =>
          have firstHalf : mask / 2 < 2 ^ first := by
            have double : 2 ^ (first + 1) = 2 ^ first * 2 := rfl
            omega
          have secondHalf : mask / 2 < 2 ^ second := by
            have double : 2 ^ (second + 1) = 2 ^ second * 2 := rfl
            omega
          simp only [weightBelow]
          rw [ih second (mask / 2) firstHalf secondHalf]

theorem weight_below_eq_weight {width mask : Nat} (bound : mask < 2 ^ width) :
    weightBelow width mask = weight mask :=
  weight_below_eq_weight_below width (mask.log2 + 1) mask bound Nat.lt_log2_self

theorem weight_xor_mod_two (first second : Nat) :
    weight (first ^^^ second) % 2 = (weight first + weight second) % 2 := by
  let width := max (first.log2 + 1) (second.log2 + 1)
  have firstBound : first < 2 ^ width :=
    Nat.lt_of_lt_of_le Nat.lt_log2_self
      (Nat.pow_le_pow_right (by decide) (Nat.le_max_left _ _))
  have secondBound : second < 2 ^ width :=
    Nat.lt_of_lt_of_le Nat.lt_log2_self
      (Nat.pow_le_pow_right (by decide) (Nat.le_max_right _ _))
  rw [← weight_below_eq_weight firstBound, ← weight_below_eq_weight secondBound,
    ← weight_below_eq_weight (Nat.xor_lt_two_pow firstBound secondBound)]
  exact weight_below_xor_mod_two width first second

theorem weight_and_xor_mod_two (firstX firstZ secondX secondZ : Nat) :
    weight ((firstX ^^^ secondX) &&& (firstZ ^^^ secondZ)) % 2 =
      (weight (firstX &&& firstZ) + weight (firstX &&& secondZ) +
        weight (secondX &&& firstZ) + weight (secondX &&& secondZ)) % 2 := by
  rw [Nat.and_xor_distrib_right, weight_xor_mod_two, Nat.add_mod, Nat.and_xor_distrib_left,
    Nat.and_xor_distrib_left, weight_xor_mod_two, weight_xor_mod_two]
  omega

theorem parity_xor (first second : Nat) :
    parity (first ^^^ second) = (parity first != parity second) := by
  have sum := weight_xor_mod_two first second
  unfold parity
  rcases Nat.mod_two_eq_zero_or_one (weight first) with firstEven | firstOdd <;>
    rcases Nat.mod_two_eq_zero_or_one (weight second) with secondEven | secondOdd <;>
      simp_all <;> omega

theorem weight_halves (mask : Nat) : weight mask = mask % 2 + weight (mask / 2) := by
  have bound : mask < 2 ^ (mask.log2 + 1) := Nat.lt_log2_self
  have half : mask / 2 < 2 ^ mask.log2 := by
    have double : 2 ^ (mask.log2 + 1) = 2 ^ mask.log2 * 2 := rfl
    omega
  rw [← weight_below_eq_weight half]
  rfl

theorem parity_halves (mask : Nat) :
    parity mask = (mask.testBit 0 != parity (mask / 2)) := by
  rw [parity, weight_halves, Nat.testBit_zero, parity]
  rcases Nat.mod_two_eq_zero_or_one mask with even | odd <;>
    rcases Nat.mod_two_eq_zero_or_one (weight (mask / 2)) with halfEven | halfOdd <;>
      simp_all <;> omega

theorem weight_zero : weight 0 = 0 := by decide

@[simp] theorem parity_zero : parity 0 = false := by decide

theorem parity_single (position : Nat) : parity (single position) = true := by
  induction position with
  | zero => decide
  | succ position ih =>
      have half : single (position + 1) / 2 = single position :=
        Nat.mul_div_cancel (single position) (by decide)
      rw [parity_halves, half, ih, test_bit_single]
      rfl

/-- Whether two masks have an odd number of members in common. -/
def dot (first second : Nat) : Bool :=
  parity (first &&& second)

theorem dot_comm (first second : Nat) : dot first second = dot second first := by
  rw [dot, dot, Nat.and_comm]

@[simp] theorem dot_zero_left (mask : Nat) : dot 0 mask = false := by
  rw [dot, Nat.zero_and, parity_zero]

@[simp] theorem dot_zero_right (mask : Nat) : dot mask 0 = false := by
  rw [dot_comm, dot_zero_left]

theorem dot_xor_left (first second mask : Nat) :
    dot (first ^^^ second) mask = (dot first mask != dot second mask) := by
  rw [dot, Nat.and_xor_distrib_right, parity_xor]
  rfl

theorem dot_xor_right (mask first second : Nat) :
    dot mask (first ^^^ second) = (dot mask first != dot mask second) := by
  rw [dot_comm, dot_xor_left, dot_comm first, dot_comm second]

@[simp] theorem dot_single_left (position mask : Nat) :
    dot (single position) mask = mask.testBit position := by
  have common : single position &&& mask =
      if mask.testBit position then single position else 0 := by
    apply Nat.eq_of_testBit_eq
    intro other
    by_cases same : position = other
    · subst same
      cases value : mask.testBit position <;> simp [value]
    · cases value : mask.testBit position <;> simp [same]
  rw [dot, common]
  cases mask.testBit position
  · exact parity_zero
  · exact parity_single position

@[simp] theorem dot_single_right (mask position : Nat) :
    dot mask (single position) = mask.testBit position := by
  rw [dot_comm, dot_single_left]

theorem dot_halves (first second : Nat) :
    dot first second =
      ((first.testBit 0 && second.testBit 0) != dot (first / 2) (second / 2)) := by
  rw [dot, parity_halves, Nat.testBit_and, Nat.and_div_two]
  rfl

theorem dot_of_bits_cons (bit : Bool) (bits : List Bool) (mask : Nat) :
    dot (ofBits (bit :: bits)) mask =
      ((bit && mask.testBit 0) != dot (ofBits bits) (mask / 2)) := by
  rw [dot_halves, test_bit_of_bits_cons, of_bits_cons_div_two]

end StabilizerPrep.Mask

namespace StabilizerPrep.Matrix

set_option autoImplicit false

open Mask

@[simp] theorem combine_zero (rows : List Nat) : combine rows 0 = 0 := by
  induction rows with
  | nil => rfl
  | cons row rows ih => simp [combine, ih]

theorem combine_cons_double (row : Nat) (rows : List Nat) (selection : Nat) :
    combine (row :: rows) (2 * selection) = combine rows selection := by
  have even : (2 * selection).testBit 0 = false := by simp
  have half : 2 * selection / 2 = selection := by omega
  rw [combine, even, half, if_neg Bool.false_ne_true, Nat.zero_xor]

theorem combine_cons_double_add_one (row : Nat) (rows : List Nat) (selection : Nat) :
    combine (row :: rows) (2 * selection + 1) = row ^^^ combine rows selection := by
  have odd : (2 * selection + 1).testBit 0 = true := by simp
  have half : (2 * selection + 1) / 2 = selection := by omega
  rw [combine, odd, half, if_pos rfl]

theorem combine_xor (rows : List Nat) (first second : Nat) :
    combine rows (first ^^^ second) = combine rows first ^^^ combine rows second := by
  induction rows generalizing first second with
  | nil => simp [combine]
  | cons row rows ih =>
      simp only [combine, Nat.xor_div_two, ih, Nat.testBit_xor]
      cases first.testBit 0 <;> cases second.testBit 0
      · simp
      · simp only [Bool.false_bne, Bool.false_eq_true, if_false, if_true, Nat.zero_xor]
        ac_rfl
      · simp [Nat.xor_assoc]
      · simp [xor_xor_xor_cancel]

theorem combine_single (rows : List Nat) (position : Nat) :
    combine rows (single position) = rows.getD position 0 := by
  induction rows generalizing position with
  | nil => rfl
  | cons row rows ih =>
      cases position with
      | zero =>
          have none : single 0 / 2 = 0 := by decide
          rw [combine, none, combine_zero, test_bit_single]
          simp
      | succ position =>
          have half : single (position + 1) / 2 = single position :=
            Nat.mul_div_cancel (single position) (by decide)
          rw [combine, half, ih, test_bit_single]
          simp

theorem combine_mod (rows : List Nat) (selection : Nat) :
    combine rows (selection % 2 ^ rows.length) = combine rows selection := by
  induction rows generalizing selection with
  | nil => rfl
  | cons row rows ih =>
      have half : selection % 2 ^ (rows.length + 1) / 2 =
          selection / 2 % 2 ^ rows.length := by
        have double : 2 ^ (rows.length + 1) = 2 * 2 ^ rows.length :=
          Nat.mul_comm _ _
        rw [double]
        exact Nat.mod_mul_right_div_self selection 2 _
      rw [List.length_cons, combine, combine, half, ih, Nat.testBit_mod_two_pow]
      simp

theorem combine_lt {rows : List Nat} {width : Nat}
    (bounded : ∀ row ∈ rows, row < 2 ^ width) (selection : Nat) :
    combine rows selection < 2 ^ width := by
  induction rows generalizing selection with
  | nil => exact Nat.two_pow_pos width
  | cons row rows ih =>
      have rest := ih (fun other member => bounded other (List.mem_cons_of_mem row member))
        (selection / 2)
      refine Nat.xor_lt_two_pow ?_ rest
      split
      · exact bounded row List.mem_cons_self
      · exact Nat.two_pow_pos width

theorem combine_map (rows : List Nat) (map : Nat → Nat) (zero : map 0 = 0)
    (additive : ∀ first second, map (first ^^^ second) = map first ^^^ map second)
    (selection : Nat) :
    combine (rows.map map) selection = map (combine rows selection) := by
  induction rows generalizing selection with
  | nil => exact zero.symm
  | cons row rows ih =>
      simp only [List.map_cons, combine, ih, additive]
      cases selection.testBit 0
      · simp [zero]
      · simp

/-- Testing a sum against a mask is testing the selection against the rows
that meet the mask in an odd number of members. -/
theorem dot_combine (rows : List Nat) (selection mask : Nat) :
    dot (combine rows selection) mask =
      dot selection (ofBits (rows.map fun row => dot row mask)) := by
  induction rows generalizing selection with
  | nil => simp [combine, ofBits]
  | cons row rows ih =>
      rw [List.map_cons, dot_halves selection, test_bit_of_bits_cons, of_bits_cons_div_two, ← ih,
        combine, dot_xor_left]
      cases selection.testBit 0 <;> simp

theorem test_bit_combine (rows : List Nat) (selection position : Nat) :
    (combine rows selection).testBit position =
      dot selection (ofBits (rows.map fun row => row.testBit position)) := by
  have tested := dot_combine rows selection (single position)
  simpa using tested

theorem combine_singles (size selection : Nat) :
    combine ((List.range size).map single) selection = selection % 2 ^ size := by
  apply eq_of_test_bit_below _ (Nat.mod_lt selection (Nat.two_pow_pos size))
  · intro position inside
    have column : ofBits (((List.range size).map single).map (·.testBit position)) =
        single position := by
      apply Nat.eq_of_testBit_eq
      intro other
      rw [List.map_map, test_bit_of_bits, List.getD_eq_getElem?_getD, List.getElem?_map,
        test_bit_single]
      by_cases below : other < size
      · simp [below, eq_comm]
      · have apart : ¬position = other := by omega
        simp [below, apart]
    rw [test_bit_combine, column, dot_single_right, Nat.testBit_mod_two_pow]
    simp [inside]
  · apply combine_lt
    intro row member
    obtain ⟨position, inside, rfl⟩ := List.mem_map.1 member
    exact single_lt (List.mem_range.1 inside)

theorem rows_of_rows {columns : Nat} {rows : List Nat}
    (bounded : ∀ row ∈ rows, row < 2 ^ columns) : (ofRows columns rows).rows = rows := by
  conv_rhs => rw [← List.map_id rows]
  apply List.map_congr_left
  intro row member
  exact Nat.mod_eq_of_lt (bounded row member)

theorem test_bit_mul_vec (matrix : Matrix) (vector : Nat) (position : Nat) :
    (matrix.mulVec vector).testBit position = dot (matrix.rows.getD position 0) vector := by
  rw [mulVec, test_bit_of_bits, List.getD_eq_getElem?_getD, List.getElem?_map,
    List.getD_eq_getElem?_getD]
  cases matrix.rows[position]? <;> simp [dot]

end StabilizerPrep.Matrix
