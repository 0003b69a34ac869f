import Mathlib.Data.List.GetD
import Mathlib.Data.Nat.Bitwise
import StabilizerPrep.Proofs.Elimination

/-!
# Kernels, systems and rank

For a column without a pivot, the column together with the pivots whose rows
meet it is a vector of the kernel. These vectors span the kernel; a system is
solved by the vector of the column that holds its right side, and the rank is
full exactly when the kernel is trivial.
-/

namespace StabilizerPrep.Matrix

set_option autoImplicit false

open Mask

def gathered (column : Nat) : List (Nat × Nat) → Nat
  | [] => 0
  | lead :: others =>
      (if lead.1.testBit column then single lead.2 else 0) ^^^ gathered column others

theorem pivot_part_eq_gathered (matrix : Matrix) (column : Nat) :
    pivotPart matrix.echelon column = gathered column matrix.eliminate.leads := by
  have fold : ∀ (leads : List (Nat × Nat)) (start : Nat),
      leads.foldl (fun vector (lead : Nat × Nat) =>
        if lead.1.testBit column then vector ^^^ single lead.2 else vector) start =
      start ^^^ gathered column leads := by
    intro leads
    induction leads with
    | nil => simp [gathered]
    | cons lead others ih =>
        intro start
        rw [List.foldl_cons, ih, gathered]
        split
        · rw [Nat.xor_assoc]
        · rw [Nat.zero_xor]
  rw [pivotPart, echelon_zip_pivots]
  exact (fold _ 0).trans (Nat.zero_xor _)

theorem dot_gathered_absent {mask : Nat} {leads : List (Nat × Nat)}
    (absent : ∀ lead ∈ leads, mask.testBit lead.2 = false) (column : Nat) :
    dot mask (gathered column leads) = false := by
  induction leads with
  | nil => exact dot_zero_right mask
  | cons lead others ih =>
      have here := absent lead List.mem_cons_self
      rw [gathered, dot_xor_right,
        ih fun other member => absent other (List.mem_cons_of_mem _ member)]
      split
      · simp [here]
      · simp

/-- A mask that meets the pivots only in that of one row is tested against
this row. -/
theorem dot_gathered_own {mask : Nat} {leads : List (Nat × Nat)} {own : Nat × Nat}
    (member : own ∈ leads) (distinct : (leads.map (·.2)).Nodup)
    (hit : mask.testBit own.2 = true)
    (missed : ∀ lead ∈ leads, lead.2 ≠ own.2 → mask.testBit lead.2 = false) (column : Nat) :
    dot mask (gathered column leads) = own.1.testBit column := by
  induction leads with
  | nil => simp at member
  | cons lead others ih =>
      obtain ⟨fresh, rest⟩ := List.nodup_cons.1 distinct
      rw [gathered, dot_xor_right]
      rcases List.mem_cons.1 member with rfl | later
      · have others_missed : ∀ other ∈ others, mask.testBit other.2 = false := by
          intro other otherMember
          apply missed other (List.mem_cons_of_mem _ otherMember)
          intro same
          exact fresh (List.mem_map.2 ⟨other, otherMember, same⟩)
        rw [dot_gathered_absent others_missed]
        cases value : own.1.testBit column <;> simp [hit]
      · have apart : lead.2 ≠ own.2 := by
          intro same
          exact fresh (List.mem_map.2 ⟨own, later, same.symm⟩)
        rw [ih later rest
          fun other otherMember => missed other (List.mem_cons_of_mem _ otherMember)]
        cases value : lead.1.testBit column <;>
          simp [missed lead List.mem_cons_self apart]

variable (matrix : Matrix)

theorem leads_pivots : matrix.eliminate.leads.map (·.2) = matrix.eliminate.pivots :=
  List.map_snd_zip (by simp [matrix.eliminate_echelonized.lengths])

theorem pivots_nodup : matrix.eliminate.pivots.Nodup :=
  matrix.eliminate_echelonized.ascending.imp fun below => Nat.ne_of_lt below

theorem dot_lead_gathered {lead : Nat × Nat} (member : lead ∈ matrix.eliminate.leads)
    (column : Nat) :
    dot lead.1 (gathered column matrix.eliminate.leads) = lead.1.testBit column := by
  have shape := matrix.eliminate_echelonized
  apply dot_gathered_own member
  · rw [leads_pivots]
    exact matrix.pivots_nodup
  · exact shape.leading lead member
  · intro other otherMember distinct
    exact shape.apart lead member other.2 (List.of_mem_zip otherMember).2 distinct

theorem test_bit_gathered_of_not_pivot {position : Nat}
    (free : position ∉ matrix.eliminate.pivots) (column : Nat) :
    (gathered column matrix.eliminate.leads).testBit position = false := by
  rw [← dot_single_left]
  apply dot_gathered_absent
  intro lead member
  rw [test_bit_single, decide_eq_false_iff_not]
  rintro rfl
  exact free (List.of_mem_zip member).2

theorem gathered_lt (column : Nat) :
    gathered column matrix.eliminate.leads < 2 ^ matrix.columns := by
  apply Nat.lt_pow_two_of_testBit
  intro position beyond
  apply test_bit_gathered_of_not_pivot
  intro member
  have inside := matrix.eliminate_echelonized.inside position member
  omega

theorem kills_single_xor_gathered (column : Nat) :
    Kills matrix.rows (single column ^^^ gathered column matrix.eliminate.leads) := by
  rw [kills_iff_leads]
  intro lead member
  rw [dot_xor_right, dot_single_right, dot_lead_gathered matrix member]
  exact bne_self_eq_false _

theorem eq_zero_of_kills_of_pivots {vector : Nat} (bound : vector < 2 ^ matrix.columns)
    (killed : Kills matrix.rows vector)
    (zero : ∀ column < matrix.columns, column ∉ matrix.eliminate.pivots →
      vector.testBit column = false) : vector = 0 := by
  have shape := matrix.eliminate_echelonized
  apply eq_of_test_bit_below bound (Nat.two_pow_pos _)
  intro position inside
  rw [Nat.zero_testBit]
  by_cases pivotal : position ∈ matrix.eliminate.pivots
  · rw [← leads_pivots] at pivotal
    obtain ⟨lead, member, rfl⟩ := List.mem_map.1 pivotal
    have even := (kills_iff_leads matrix vector).1 killed lead member
    have common : lead.1 &&& vector = if vector.testBit lead.2 then single lead.2 else 0 := by
      apply Nat.eq_of_testBit_eq
      intro other
      rw [Nat.testBit_and]
      by_cases same : lead.2 = other
      · subst same
        rw [shape.leading lead member]
        cases value : vector.testBit lead.2 <;> simp
      · have none : (lead.1.testBit other && vector.testBit other) = false := by
          by_cases outside : other < matrix.columns
          · by_cases otherPivot : other ∈ matrix.eliminate.pivots
            · rw [shape.apart lead member other otherPivot (Ne.symm same), Bool.false_and]
            · rw [zero other outside otherPivot, Bool.and_false]
          · rw [test_bit_beyond bound (by omega), Bool.and_false]
        rw [none]
        split <;> simp [same]
    rw [dot, common] at even
    cases value : vector.testBit lead.2
    · rfl
    · rw [value, if_pos rfl, parity_single] at even
      exact absurd even (by decide)
  · exact zero position inside pivotal

theorem mem_pivots_of_rank (full : matrix.rank = matrix.columns) {column : Nat}
    (inside : column < matrix.columns) : column ∈ matrix.eliminate.pivots := by
  have contained : matrix.eliminate.pivots ⊆ List.range matrix.columns := fun pivot member =>
    List.mem_range.2 (matrix.eliminate_echelonized.inside pivot member)
  have permuted := (matrix.pivots_nodup.subperm contained).perm_of_length_le
    (by rw [List.length_range, ← full]; exact Nat.le_refl _)
  exact permuted.mem_iff.2 (List.mem_range.2 inside)

/-- The rank is full exactly when no vector other than zero is sent to
zero. -/
theorem rank_eq_columns_iff :
    matrix.rank = matrix.columns ↔
      ∀ vector < 2 ^ matrix.columns, Kills matrix.rows vector → vector = 0 := by
  constructor
  · intro full vector bound killed
    apply eq_zero_of_kills_of_pivots matrix bound killed
    intro column inside free
    exact absurd (matrix.mem_pivots_of_rank full inside) free
  · intro trivial
    by_contra deficient
    have shape := matrix.eliminate_echelonized
    obtain ⟨column, inside, free⟩ :
        ∃ column < matrix.columns, column ∉ matrix.eliminate.pivots := by
      by_contra none
      have covered : List.range matrix.columns ⊆ matrix.eliminate.pivots := by
        intro column member
        by_contra free
        exact none ⟨column, List.mem_range.1 member, free⟩
      have contained : matrix.eliminate.pivots ⊆ List.range matrix.columns :=
        fun pivot member => List.mem_range.2 (shape.inside pivot member)
      have atLeast := (List.nodup_range.subperm covered).length_le
      have atMost := (matrix.pivots_nodup.subperm contained).length_le
      rw [List.length_range] at atLeast atMost
      exact deficient (Nat.le_antisymm atMost atLeast)
    have vanishes := trivial _ (Nat.xor_lt_two_pow (single_lt inside) (matrix.gathered_lt column))
      (matrix.kills_single_xor_gathered column)
    have bit := congrArg (fun mask => mask.testBit column) vanishes
    simp [Nat.testBit_xor, matrix.test_bit_gathered_of_not_pivot free] at bit

theorem rows_augment (vector : Nat) :
    (matrix.augment vector).rows = matrix.rows.mapIdx fun i row =>
      if vector.testBit i then row ^^^ single matrix.columns else row := by
  rw [augment, ofRows]
  apply List.ext_getElem
  · simp
  · intro position _ inside
    have below : position < matrix.rows.length := by simpa using inside
    have bound : matrix.rows[position] < 2 ^ (matrix.columns + 1) :=
      Nat.lt_trans (matrix.bounded _ (List.getElem_mem below))
        (Nat.pow_lt_pow_right (by decide) (Nat.lt_succ_self _))
    simp only [List.getElem_map, List.getElem_mapIdx]
    apply Nat.mod_eq_of_lt
    split
    · exact Nat.xor_lt_two_pow bound (single_lt (Nat.lt_succ_self _))
    · exact bound

/-- A vector solves a system exactly when it is in the kernel once the right
side is added as one more column. -/
theorem kills_augment_iff (target : Nat) {vector : Nat}
    (bound : vector < 2 ^ matrix.columns) :
    Kills (matrix.augment target).rows (single matrix.columns ^^^ vector) ↔
      ∀ i < matrix.height, dot (matrix.rows.getD i 0) vector = target.testBit i := by
  have outside : vector.testBit matrix.columns = false := test_bit_beyond bound (Nat.le_refl _)
  have value : ∀ i (inside : i < matrix.rows.length),
      dot (if target.testBit i then matrix.rows[i] ^^^ single matrix.columns else matrix.rows[i])
        (single matrix.columns ^^^ vector) =
      (dot matrix.rows[i] vector != target.testBit i) := by
    intro i inside
    have rowOutside : matrix.rows[i].testBit matrix.columns = false :=
      test_bit_beyond (matrix.bounded _ (List.getElem_mem inside)) (Nat.le_refl _)
    cases target.testBit i <;>
      simp [dot_xor_left, dot_xor_right, rowOutside, outside]
  rw [rows_augment, Kills]
  constructor
  · intro killed i inside
    have even := killed _ (List.mem_mapIdx.2 ⟨i, inside, rfl⟩)
    rw [value i inside] at even
    rw [List.getD_eq_getElem _ _ inside]
    simpa using even
  · intro solved row member
    obtain ⟨i, inside, rfl⟩ := List.mem_mapIdx.1 member
    have equation := solved i inside
    rw [List.getD_eq_getElem _ _ inside] at equation
    rw [value i inside, equation]
    exact bne_self_eq_false _

theorem solve_some {target solution : Nat} (found : matrix.solve target = some solution) :
    solution < 2 ^ matrix.columns ∧
      ∀ i < matrix.height, dot (matrix.rows.getD i 0) solution = target.testBit i := by
  unfold solve at found
  simp only at found
  split at found
  · simp at found
  next missing =>
      obtain rfl := Option.some.inj found
      have free : matrix.columns ∉ (matrix.augment target).eliminate.pivots := by
        simpa [echelon] using missing
      rw [pivot_part_eq_gathered]
      have bound : gathered matrix.columns (matrix.augment target).eliminate.leads <
          2 ^ matrix.columns := by
        apply Nat.lt_pow_two_of_testBit
        intro position beyond
        by_cases last : position = matrix.columns
        · subst last
          exact test_bit_gathered_of_not_pivot _ free _
        · exact test_bit_beyond (gathered_lt (matrix.augment target) _)
            (show matrix.columns + 1 ≤ position by omega)
      refine ⟨bound, (matrix.kills_augment_iff target bound).1 ?_⟩
      exact kills_single_xor_gathered _ _

theorem solve_none {target : Nat} (absent : matrix.solve target = none) {vector : Nat}
    (bound : vector < 2 ^ matrix.columns) :
    ¬∀ i < matrix.height, dot (matrix.rows.getD i 0) vector = target.testBit i := by
  intro solves
  unfold solve at absent
  simp only at absent
  split at absent
  next found =>
      have pivotal : matrix.columns ∈ (matrix.augment target).eliminate.leads.map (·.2) := by
        rw [leads_pivots]
        simpa [echelon] using found
      obtain ⟨lead, member, last⟩ := List.mem_map.1 pivotal
      have shape := (matrix.augment target).eliminate_echelonized
      have even := (kills_iff_leads _ _).1 ((matrix.kills_augment_iff target bound).2 solves)
        lead member
      -- the leading row of the last column has no other member
      have none : lead.1 &&& vector = 0 := by
        apply Nat.eq_of_testBit_eq
        intro position
        rw [Nat.testBit_and, Nat.zero_testBit]
        by_cases inside : position < matrix.columns
        · rw [shape.before lead member position (by omega), Bool.false_and]
        · rw [test_bit_beyond bound (by omega), Bool.and_false]
      have hit := shape.leading lead member
      rw [last] at hit
      rw [dot_xor_right, dot_single_right, hit, dot, none, parity_zero] at even
      exact absurd even (by decide)
  next => simp at absent

theorem null_space_eq :
    matrix.nullSpace = ((List.range matrix.columns).filter fun column =>
      !matrix.eliminate.pivots.contains column).map fun column =>
        single column ^^^ gathered column matrix.eliminate.leads := by
  simp only [nullSpace, pivot_part_eq_gathered]
  rfl

theorem mem_null_space {vector : Nat} (member : vector ∈ matrix.nullSpace) :
    vector < 2 ^ matrix.columns ∧ Kills matrix.rows vector := by
  rw [null_space_eq] at member
  obtain ⟨column, filtered, rfl⟩ := List.mem_map.1 member
  have inside : column < matrix.columns := List.mem_range.1 (List.mem_filter.1 filtered).1
  exact ⟨Nat.xor_lt_two_pow (single_lt inside) (matrix.gathered_lt column),
    matrix.kills_single_xor_gathered column⟩

theorem kills_combine {rows basis : List Nat} (killed : ∀ vector ∈ basis, Kills rows vector)
    (selection : Nat) : Kills rows (combine basis selection) := by
  induction basis generalizing selection with
  | nil =>
      intro row _
      exact dot_zero_right row
  | cons vector basis ih =>
      intro row member
      have first := killed vector List.mem_cons_self row member
      have rest := ih (fun other later => killed other (List.mem_cons_of_mem _ later))
        (selection / 2) row member
      rw [combine, dot_xor_right, rest]
      split
      · rw [first]
        rfl
      · rw [dot_zero_right]
        rfl

theorem dot_of_bits_indicator {positions : List Nat} (distinct : positions.Nodup)
    {position : Nat} (member : position ∈ positions) (value : Nat → Bool) :
    dot (ofBits (positions.map value))
      (ofBits (positions.map fun other => decide (other = position))) = value position := by
  obtain ⟨k, inside, rfl⟩ := List.mem_iff_getElem.1 member
  rw [of_bits_map_eq_single distinct inside, dot_single_right, test_bit_of_bits,
    List.getD_eq_getElem _ _ (by simpa using inside), List.getElem_map]

def freeColumns : List Nat :=
  (List.range matrix.columns).filter fun column => !matrix.eliminate.pivots.contains column

theorem free_columns_nodup : matrix.freeColumns.Nodup :=
  List.nodup_range.filter _

theorem mem_free_columns {column : Nat} :
    column ∈ matrix.freeColumns ↔ column < matrix.columns ∧ column ∉ matrix.eliminate.pivots := by
  simp [freeColumns]

theorem length_null_space : matrix.nullSpace.length = matrix.freeColumns.length := by
  rw [null_space_eq, List.length_map]
  rfl

theorem rank_add_length_null_space : matrix.rank + matrix.nullSpace.length = matrix.columns := by
  have pivotal : ((List.range matrix.columns).filter matrix.eliminate.pivots.contains).Perm
      matrix.eliminate.pivots := by
    rw [List.perm_ext_iff_of_nodup (List.nodup_range.filter _) matrix.pivots_nodup]
    intro column
    simp only [List.mem_filter, List.mem_range, List.contains_iff_mem, and_iff_right_iff_imp]
    exact matrix.eliminate_echelonized.inside column
  have split := List.length_eq_length_filter_add (l := List.range matrix.columns)
    matrix.eliminate.pivots.contains
  rw [List.length_range, pivotal.length_eq] at split
  rw [length_null_space, split]
  rfl

theorem test_bit_combine_null_space (selection : Nat) {column : Nat}
    (missing : column ∉ matrix.eliminate.pivots) :
    (combine matrix.nullSpace selection).testBit column =
      dot selection (ofBits (matrix.freeColumns.map fun other => decide (other = column))) := by
  rw [test_bit_combine, null_space_eq, List.map_map]
  congr 2
  apply List.map_congr_left
  intro other _
  rw [Function.comp_apply, Nat.testBit_xor, matrix.test_bit_gathered_of_not_pivot missing,
    test_bit_single, Bool.xor_false]

/-- Every vector of the kernel is a sum of vectors of the basis. -/
theorem exists_combine_null_space {vector : Nat} (bound : vector < 2 ^ matrix.columns)
    (killed : Kills matrix.rows vector) :
    ∃ selection < 2 ^ matrix.nullSpace.length,
      combine matrix.nullSpace selection = vector := by
  let selection := ofBits (matrix.freeColumns.map vector.testBit)
  have selectionBound : selection < 2 ^ matrix.nullSpace.length := by
    rw [length_null_space]
    simpa using of_bits_lt (matrix.freeColumns.map vector.testBit)
  refine ⟨selection, selectionBound, ?_⟩
  have spanned : combine matrix.nullSpace selection < 2 ^ matrix.columns :=
    combine_lt (fun other member => (matrix.mem_null_space member).1) selection
  have sumKilled : Kills matrix.rows (combine matrix.nullSpace selection) :=
    kills_combine (fun other member => (matrix.mem_null_space member).2) selection
  have difference : vector ^^^ combine matrix.nullSpace selection = 0 := by
    apply matrix.eq_zero_of_kills_of_pivots (Nat.xor_lt_two_pow bound spanned)
    · intro row member
      rw [dot_xor_right, killed row member, sumKilled row member]
      rfl
    · intro column inside missing
      rw [Nat.testBit_xor, test_bit_combine_null_space matrix selection missing,
        dot_of_bits_indicator matrix.free_columns_nodup
          (matrix.mem_free_columns.2 ⟨inside, missing⟩) vector.testBit, Bool.xor_self]
  exact (Nat.xor_eq_zero_iff.1 difference).symm

end StabilizerPrep.Matrix
