import Mathlib.Data.List.Perm.Subperm
import Mathlib.Data.List.TakeWhile
import StabilizerPrep.Matrix.Elimination
import StabilizerPrep.Proofs.Bits

/-!
# Elimination keeps the kernel

One invariant is carried through the columns: the rows with a pivot are led by
it, no other row of them has a one in a pivot's column, and the pending rows
are zero in every column visited so far. No step changes which vectors are
sent to zero. At the end the pending rows are zero, so the kernel, the
solutions of a system and the rank can be read off the leading rows.
-/

namespace StabilizerPrep.Matrix

set_option autoImplicit false

open Mask

def Kills (rows : List Nat) (vector : Nat) : Prop :=
  ∀ row ∈ rows, dot row vector = false

namespace Elimination

theorem take_pivot_none {column : Nat} {rows : List TrackedRow}
    (absent : takePivot column rows = none) :
    ∀ row ∈ rows, row.entries.testBit column = false := by
  cases rows with
  | nil => simp
  | cons first rest =>
      simp only [takePivot] at absent
      split at absent
      next missed =>
          split at absent
          next nothing =>
              have missing := List.dropWhile_eq_nil_iff.1 nothing
              intro row member
              rcases List.mem_cons.1 member with rfl | member
              · simpa using missed
              · simpa using missing row member
          next => simp at absent
      next => simp at absent

theorem take_pivot_some {column : Nat} {rows others : List TrackedRow} {pivot : TrackedRow}
    (found : takePivot column rows = some (pivot, others)) :
    pivot.entries.testBit column = true ∧ (pivot :: others).Perm rows := by
  cases rows with
  | nil => simp [takePivot] at found
  | cons first rest =>
      simp only [takePivot] at found
      split at found
      next missed =>
          split at found
          next => simp at found
          next taken after split =>
              obtain ⟨rfl, rfl⟩ : taken = pivot ∧ _ = others := by simpa using found
              have parts := List.takeWhile_append_dropWhile
                (p := fun row : TrackedRow => !row.entries.testBit column) (l := rest)
              have hit := List.head_dropWhile_not
                (fun row : TrackedRow => !row.entries.testBit column) (l := rest)
                (by simp [split])
              rw [split] at parts
              simp only [split, List.head_cons, Bool.not_eq_false'] at hit
              refine ⟨hit, ?_⟩
              conv_rhs => rw [← parts]
              exact (List.perm_middle.cons taken).trans
                ((List.Perm.swap first taken _).trans (List.perm_middle.symm.cons first))
      next hit =>
          obtain ⟨rfl, rfl⟩ : first = pivot ∧ rest = others := by simpa using found
          exact ⟨by simpa using hit, List.Perm.refl _⟩

def cleared (column pivot entries : Nat) : Nat :=
  if entries.testBit column then entries ^^^ pivot else entries

theorem entries_clear (column : Nat) (pivot row : TrackedRow) :
    (clear column pivot row).entries = cleared column pivot.entries row.entries := by
  unfold clear cleared
  split <;> rfl

theorem test_bit_cleared {column pivot : Nat} (leads : pivot.testBit column = true)
    (entries : Nat) : (cleared column pivot entries).testBit column = false := by
  unfold cleared
  cases value : entries.testBit column <;> simp [value, leads]

theorem test_bit_cleared_of_zero {column pivot position : Nat}
    (zero : pivot.testBit position = false) (entries : Nat) :
    (cleared column pivot entries).testBit position = entries.testBit position := by
  unfold cleared
  split <;> simp [zero]

def leads (state : Elimination) : List (Nat × Nat) :=
  (state.reduced.map (·.entries)).zip state.pivots

/-- The shape of the rows when the columns below `visited` are done. -/
structure Echelonized (visited : Nat) (state : Elimination) : Prop where
  lengths : state.reduced.length = state.pivots.length
  leading : ∀ lead ∈ state.leads, lead.1.testBit lead.2 = true
  before : ∀ lead ∈ state.leads, ∀ column < lead.2, lead.1.testBit column = false
  apart : ∀ lead ∈ state.leads, ∀ pivot ∈ state.pivots, pivot ≠ lead.2 →
    lead.1.testBit pivot = false
  ascending : state.pivots.Pairwise (· < ·)
  inside : ∀ pivot ∈ state.pivots, pivot < visited
  pending : ∀ row ∈ state.pending, ∀ column < visited, row.entries.testBit column = false

theorem echelonized_start (matrix : Matrix) : Echelonized 0 (start matrix) where
  lengths := rfl
  leading := by simp [leads, start]
  before := by simp [leads, start]
  apart := by simp [leads, start]
  ascending := List.Pairwise.nil
  inside := by simp [start]
  pending := by
    intro row member column below
    omega

theorem Echelonized.lead_inside {visited : Nat} {state : Elimination}
    (shape : Echelonized visited state) {lead : Nat × Nat} (member : lead ∈ state.leads) :
    lead.2 < visited :=
  shape.inside lead.2 (List.of_mem_zip member).2

theorem Echelonized.idle {state : Elimination} {column : Nat} (shape : Echelonized column state)
    (none : takePivot column state.pending = none) : Echelonized (column + 1) state := by
  refine { shape with
    inside := fun pivot member => Nat.lt_succ_of_lt (shape.inside pivot member)
    pending := fun row member position below => ?_ }
  rcases Nat.lt_succ_iff_lt_or_eq.1 below with earlier | rfl
  · exact shape.pending row member position earlier
  · exact take_pivot_none none row member

section Pivots

variable {state : Elimination} {column : Nat} {pivot : TrackedRow} {others : List TrackedRow}

theorem pivots_of_pivot (found : takePivot column state.pending = some (pivot, others)) :
    (step state column).pivots = state.pivots ++ [column] := by
  simp [step, found]

theorem leads_of_pivot (found : takePivot column state.pending = some (pivot, others))
    (lengths : state.reduced.length = state.pivots.length) :
    (step state column).leads =
      state.leads.map (fun lead => (cleared column pivot.entries lead.1, lead.2)) ++
        [(pivot.entries, column)] := by
  unfold step leads
  rw [found]
  simp only [List.map_append, List.map_map, List.map_cons, List.map_nil]
  rw [List.zip_append (by simpa using lengths)]
  congr 1
  rw [List.zip_map_left, List.zip_map_left, List.map_map]
  apply List.map_congr_left
  intro pair _
  exact Prod.ext (entries_clear column pivot pair.1) rfl

theorem forall_leads_of_pivot (found : takePivot column state.pending = some (pivot, others))
    (lengths : state.reduced.length = state.pivots.length) (holds : Nat × Nat → Prop) :
    (∀ lead ∈ (step state column).leads, holds lead) ↔
      (∀ lead ∈ state.leads, holds (cleared column pivot.entries lead.1, lead.2)) ∧
        holds (pivot.entries, column) := by
  rw [leads_of_pivot found lengths, List.forall_mem_append, List.forall_mem_map,
    List.forall_mem_singleton]

theorem forall_pivots_of_pivot (found : takePivot column state.pending = some (pivot, others))
    (holds : Nat → Prop) :
    (∀ other ∈ (step state column).pivots, holds other) ↔
      (∀ other ∈ state.pivots, holds other) ∧ holds column := by
  rw [pivots_of_pivot found, List.forall_mem_append, List.forall_mem_singleton]

theorem Echelonized.reduce (shape : Echelonized column state)
    (found : takePivot column state.pending = some (pivot, others)) :
    Echelonized (column + 1) (step state column) := by
  obtain ⟨hit, permuted⟩ := take_pivot_some found
  have zero : ∀ position < column, pivot.entries.testBit position = false :=
    shape.pending pivot (permuted.mem_iff.1 List.mem_cons_self)
  have kept : ∀ entries, ∀ position < column,
      (cleared column pivot.entries entries).testBit position = entries.testBit position :=
    fun entries position below => test_bit_cleared_of_zero (zero position below) entries
  refine ⟨?lengths, ?leading, ?before, ?apart, ?ascending, ?inside, ?pending⟩
  case lengths => simp [step, found, shape.lengths]
  case leading =>
      refine (forall_leads_of_pivot found shape.lengths _).2 ⟨fun lead member => ?_, hit⟩
      have inside := shape.lead_inside member
      rw [kept _ _ inside]
      exact shape.leading lead member
  case before =>
      refine (forall_leads_of_pivot found shape.lengths _).2 ⟨?_, zero⟩
      intro lead member position below
      have inside := shape.lead_inside member
      rw [kept _ _ (Nat.lt_trans below inside)]
      exact shape.before lead member position below
  case apart =>
      refine (forall_leads_of_pivot found shape.lengths _).2 ⟨?_, ?_⟩
      · intro lead member
        refine (forall_pivots_of_pivot found _).2 ⟨fun other earlier distinct => ?_, fun _ => ?_⟩
        · rw [kept _ _ (shape.inside other earlier)]
          exact shape.apart lead member other earlier distinct
        · exact test_bit_cleared hit lead.1
      · refine (forall_pivots_of_pivot found _).2 ⟨fun other earlier _ => ?_, fun same => ?_⟩
        · exact zero other (shape.inside other earlier)
        · exact absurd rfl same
  case ascending =>
      rw [pivots_of_pivot found, List.pairwise_append]
      refine ⟨shape.ascending, List.pairwise_singleton _ _, fun earlier member => ?_⟩
      exact List.forall_mem_singleton.2 (shape.inside earlier member)
  case inside =>
      refine (forall_pivots_of_pivot found _).2 ⟨fun other earlier => ?_, Nat.lt_succ_self column⟩
      exact Nat.lt_succ_of_lt (shape.inside other earlier)
  case pending =>
      intro row member position below
      have cleaned : row ∈ others.map (clear column pivot) := by simpa [step, found] using member
      obtain ⟨prior, priorMember, rfl⟩ := List.mem_map.1 cleaned
      rw [entries_clear]
      rcases Nat.lt_succ_iff_lt_or_eq.1 below with earlier | rfl
      · rw [kept _ _ earlier]
        exact shape.pending prior (permuted.mem_iff.1 (List.mem_cons_of_mem _ priorMember))
          position earlier
      · exact test_bit_cleared hit prior.entries

end Pivots

theorem echelonized_step (state : Elimination) (column : Nat)
    (shape : Echelonized column state) : Echelonized (column + 1) (step state column) := by
  cases found : takePivot column state.pending with
  | none =>
      have same : step state column = state := by simp [step, found]
      rw [same]
      exact shape.idle found
  | some result => exact shape.reduce found

theorem dot_cleared {pivot vector : Nat} (even : dot pivot vector = false)
    (column entries : Nat) :
    dot (cleared column pivot entries) vector = dot entries vector := by
  unfold cleared
  split
  · rw [dot_xor_left, even, Bool.bne_false]
  · rfl

theorem forall_rows_of_pivot {state : Elimination} {column : Nat} {pivot : TrackedRow}
    {others : List TrackedRow}
    (found : takePivot column state.pending = some (pivot, others)) (holds : Nat → Prop) :
    ((∀ row ∈ state.rows, holds row.entries) ↔
      holds pivot.entries ∧ ∀ row ∈ state.reduced ++ others, holds row.entries) ∧
    ((∀ row ∈ (step state column).rows, holds row.entries) ↔
      holds pivot.entries ∧ ∀ row ∈ state.reduced ++ others,
        holds (cleared column pivot.entries row.entries)) := by
  have permuted := (take_pivot_some found).2
  constructor
  · simp only [rows, List.mem_append, ← permuted.mem_iff, List.mem_cons]
    constructor
    · intro all
      exact ⟨all pivot (.inr (.inl rfl)), fun row member =>
        all row (member.imp id .inr)⟩
    · rintro ⟨first, rest⟩ row (reduced | rfl | other)
      · exact rest row (.inl reduced)
      · exact first
      · exact rest row (.inr other)
  · simp only [rows, step, found, List.mem_append, List.mem_map, List.mem_singleton]
    constructor
    · intro all
      refine ⟨all (gather column pivot (state.reduced ++ others)) (.inl (.inr rfl)),
        fun row member => ?_⟩
      rw [← entries_clear]
      exact all _ (member.imp (fun reduced => .inl ⟨row, reduced, rfl⟩)
        fun other => ⟨row, other, rfl⟩)
    · rintro ⟨first, rest⟩ row ((⟨prior, reduced, rfl⟩ | rfl) | ⟨prior, other, rfl⟩)
      · rw [entries_clear]
        exact rest prior (.inl reduced)
      · exact first
      · rw [entries_clear]
        exact rest prior (.inr other)

theorem kills_step (state : Elimination) (column vector : Nat) :
    (∀ row ∈ (step state column).rows, dot row.entries vector = false) ↔
      ∀ row ∈ state.rows, dot row.entries vector = false := by
  cases found : takePivot column state.pending with
  | none => simp [step, found]
  | some result =>
      obtain ⟨old, new⟩ := forall_rows_of_pivot found (fun entries => dot entries vector = false)
      rw [old, new]
      constructor
      · rintro ⟨even, rest⟩
        exact ⟨even, fun row member => by rw [← rest row member, dot_cleared even]⟩
      · rintro ⟨even, rest⟩
        exact ⟨even, fun row member => by rw [dot_cleared even, rest row member]⟩

theorem bounded_step {state : Elimination} {width : Nat}
    (bounded : ∀ row ∈ state.rows, row.entries < 2 ^ width) (column : Nat) :
    ∀ row ∈ (step state column).rows, row.entries < 2 ^ width := by
  cases found : takePivot column state.pending with
  | none => simpa [step, found] using bounded
  | some result =>
      obtain ⟨old, new⟩ := forall_rows_of_pivot found (fun entries => entries < 2 ^ width)
      obtain ⟨first, rest⟩ := old.1 bounded
      refine new.2 ⟨first, fun row member => ?_⟩
      unfold cleared
      split
      · exact Nat.xor_lt_two_pow (rest row member) first
      · exact rest row member

theorem run_columns (matrix : Matrix) (visited : Nat) :
    let state := (List.range visited).foldl step (start matrix)
    Echelonized visited state ∧
      (∀ row ∈ state.rows, row.entries < 2 ^ matrix.columns) ∧
      ∀ vector, (∀ row ∈ state.rows, dot row.entries vector = false) ↔
        Kills matrix.rows vector := by
  induction visited with
  | zero =>
      refine ⟨echelonized_start matrix, ?_, ?_⟩
      · intro row member
        have pending : row ∈ (start matrix).pending := by simpa [rows, start] using member
        obtain ⟨position, inside, rfl⟩ := List.mem_mapIdx.1 pending
        exact matrix.bounded _ (List.getElem_mem inside)
      · intro vector
        have entries : (start matrix).pending.map (·.entries) = matrix.rows := by
          apply List.ext_getElem
          · simp [start]
          · intro position _ _
            simp [start]
        simp only [List.range_zero, List.foldl_nil, Kills]
        rw [← entries]
        simp only [List.forall_mem_map]
        rfl
  | succ visited ih =>
      obtain ⟨shape, bounded, kernel⟩ := ih
      rw [List.range_succ, List.foldl_append]
      refine ⟨echelonized_step _ visited shape, bounded_step bounded visited, ?_⟩
      intro vector
      exact (kills_step _ visited vector).trans (kernel vector)

end Elimination

theorem eliminate_echelonized (matrix : Matrix) :
    matrix.eliminate.Echelonized matrix.columns :=
  (Elimination.run_columns matrix matrix.columns).1

theorem eliminate_bounded (matrix : Matrix) :
    ∀ row ∈ matrix.eliminate.rows, row.entries < 2 ^ matrix.columns :=
  (Elimination.run_columns matrix matrix.columns).2.1

theorem eliminate_pending_zero (matrix : Matrix) :
    ∀ row ∈ matrix.eliminate.pending, row.entries = 0 := by
  intro row member
  apply eq_of_test_bit_below (eliminate_bounded matrix row (List.mem_append_right _ member))
    (Nat.two_pow_pos matrix.columns)
  intro position inside
  rw [matrix.eliminate_echelonized.pending row member position inside, Nat.zero_testBit]

/-- The leading rows alone decide which vectors are sent to zero. -/
theorem kills_iff_leads (matrix : Matrix) (vector : Nat) :
    Kills matrix.rows vector ↔ ∀ lead ∈ matrix.eliminate.leads, dot lead.1 vector = false := by
  have shape := matrix.eliminate_echelonized
  have kernel := (Elimination.run_columns matrix matrix.columns).2.2 vector
  change (∀ row ∈ matrix.eliminate.rows, dot row.entries vector = false) ↔ _ at kernel
  rw [← kernel]
  have firsts : matrix.eliminate.leads.map (·.1) = matrix.eliminate.reduced.map (·.entries) :=
    List.map_fst_zip (by simp [shape.lengths])
  constructor
  · intro all lead member
    have occurs : lead.1 ∈ matrix.eliminate.reduced.map (·.entries) := by
      rw [← firsts]
      exact List.mem_map_of_mem member
    obtain ⟨row, reduced, same⟩ := List.mem_map.1 occurs
    rw [← same]
    exact all row (List.mem_append_left _ reduced)
  · intro all row member
    rcases List.mem_append.1 member with reduced | pending
    · have occurs : row.entries ∈ matrix.eliminate.leads.map (·.1) := by
        rw [firsts]
        exact List.mem_map_of_mem reduced
      obtain ⟨lead, leadMember, same⟩ := List.mem_map.1 occurs
      rw [← same]
      exact all lead leadMember
    · rw [eliminate_pending_zero matrix row pending, dot_zero_left]

theorem rows_echelon (matrix : Matrix) :
    matrix.echelon.matrix.rows = matrix.eliminate.rows.map (·.entries) := by
  apply rows_of_rows
  rw [List.forall_mem_map]
  exact eliminate_bounded matrix

theorem echelon_zip_pivots (matrix : Matrix) :
    matrix.echelon.matrix.rows.zip matrix.echelon.pivots = matrix.eliminate.leads := by
  have shape := matrix.eliminate_echelonized
  have pivots : matrix.echelon.pivots = matrix.eliminate.pivots ++ [] := by simp [echelon]
  rw [rows_echelon, pivots, Elimination.rows, List.map_append,
    List.zip_append (by simp [shape.lengths])]
  simp [Elimination.leads]

end StabilizerPrep.Matrix
