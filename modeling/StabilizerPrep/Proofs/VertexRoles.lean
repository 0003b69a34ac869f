import Mathlib.Data.List.Perm.Subperm
import Mathlib.Data.List.Sort
import Mathlib.Data.List.Sublists
import StabilizerPrep.Partition.Shape
import StabilizerPrep.Proofs.Bits

/-!
# Roles and how they are arranged

The groups of a partition have every vertex exactly once. A group is found by
its size and its place among the groups of that size, so groups of different
sizes may come in any order, and we may take them by size. Groups that are
taken by size fill the sizes of the shape with the vertices, and there are
finitely many such fillings.
-/

namespace StabilizerPrep

set_option autoImplicit false

open Mask

theorem sort_by_eq_insertion_sort {α : Type} (key : α → Nat) (items : List α) :
    sortBy key items = items.insertionSort fun first second => key first ≤ key second := by
  induction items with
  | nil => rfl
  | cons item items ih =>
      rw [List.insertionSort_cons, List.orderedInsert_eq_take_drop, ← ih]
      simp only [sortBy, List.foldr_cons, Nat.not_le]

namespace Roles

variable {roles : Roles}

theorem test_bit_group_mask (group : List Nat) (vertex : Nat) :
    (groupMask group).testBit vertex = group.contains vertex := by
  have run : ∀ mask, (group.foldl (fun mask member => mask ||| single member) mask).testBit vertex =
      (mask.testBit vertex || group.contains vertex) := by
    induction group with
    | nil => simp
    | cons member group ih =>
        intro mask
        rw [List.foldl_cons, ih, Nat.testBit_or, test_bit_single, List.contains_cons, Bool.or_assoc,
          show (vertex == member) = decide (member = vertex) by
            rw [Bool.eq_iff_iff, beq_iff_eq, decide_eq_true_eq, eq_comm]]
  rw [groupMask, run, Nat.zero_testBit, Bool.false_or]

theorem test_bit_cover {groups : List (List Nat)} {seen whole : Nat}
    (covered : cover seen groups = some whole) (vertex : Nat) :
    whole.testBit vertex = (seen.testBit vertex || groups.flatten.contains vertex) := by
  induction groups generalizing seen with
  | nil =>
      obtain rfl := Option.some.inj covered
      simp
  | cons group groups ih =>
      simp only [cover] at covered
      split at covered
      · rw [ih covered, Nat.testBit_or, test_bit_group_mask, Bool.or_assoc]
        simp
      · cases covered

/-- The groups of a partition have every vertex exactly once. -/
theorem flatten_perm {size : Nat} (partition : roles.isPartition size = true) :
    roles.groups.flatten.Perm (List.range size) := by
  rw [isPartition, Bool.and_eq_true, beq_iff_eq, beq_iff_eq] at partition
  obtain ⟨covered, counted⟩ := partition
  have within : List.range size ⊆ roles.groups.flatten := by
    intro vertex member
    have reached := test_bit_cover covered vertex
    rw [full, Nat.testBit_two_pow_sub_one, decide_eq_true (List.mem_range.1 member),
      Nat.zero_testBit, Bool.false_or] at reached
    exact List.contains_iff_mem.1 reached.symm
  have short : roles.groups.flatten.length ≤ (List.range size).length := by
    rw [List.length_range, ← counted, List.length_flatten]
  exact (List.nodup_range.subperm within).perm_of_length_le short |>.symm

def bySize (roles : Roles) : Roles :=
  ⟨roles.groups.insertionSort fun first second => first.length ≤ second.length⟩

theorem group_by_size (roles : Roles) : roles.bySize.group = roles.group := by
  funext size ordinal
  have alike : (roles.groups.filter fun group => group.length == size).Pairwise
      fun first second => first.length ≤ second.length := by
    rw [List.pairwise_iff_forall_sublist]
    intro first second both
    have firstSize := List.of_mem_filter (both.subset List.mem_cons_self)
    have secondSize := List.of_mem_filter (both.subset (List.mem_cons_of_mem _ List.mem_cons_self))
    rw [beq_iff_eq] at firstSize secondSize
    omega
  have kept := (List.sublist_insertionSort alike List.filter_sublist).filter
    fun group => group.length == size
  rw [List.filter_filter] at kept
  have same := kept.eq_of_length
    (by simpa using ((List.perm_insertionSort _ roles.groups).filter _).length_eq.symm)
  rw [group, group, bySize, ← same]
  simp

theorem lengths_by_size (roles : Roles) :
    roles.bySize.groups.map List.length = (roles.groups.map List.length).insertionSort (· ≤ ·) :=
  List.map_insertionSort _ _ _ _ fun _ _ _ _ => Iff.rfl

theorem flatten_by_size (roles : Roles) :
    roles.bySize.groups.flatten.Perm roles.groups.flatten :=
  (List.perm_insertionSort _ roles.groups).flatten

def fillings : List Nat → List Nat → List (List (List Nat))
  | _, [] => [[]]
  | vertices, size :: sizes =>
      (vertices.sublistsLen size).flatMap fun group =>
        (fillings (vertices.filter fun vertex => !group.contains vertex) sizes).map (group :: ·)

theorem mem_fillings {groups : List (List Nat)} {vertices : List Nat}
    (ascending : vertices.Pairwise (· < ·)) (sorted : ∀ group ∈ groups, group.Pairwise (· ≤ ·))
    (perm : groups.flatten.Perm vertices) :
    groups ∈ fillings vertices (groups.map List.length) := by
  induction groups generalizing vertices with
  | nil => exact List.mem_singleton_self []
  | cons group groups ih =>
      have part : group.Sublist vertices := by
        refine List.sublist_of_subperm_of_pairwise ?_ (sorted group List.mem_cons_self)
          (ascending.imp Nat.le_of_lt)
        exact (List.sublist_append_left group groups.flatten).subperm.trans perm.subperm
      have others : groups.flatten.Perm
          (vertices.filter fun vertex => !group.contains vertex) := by
        have apart : (group ++ groups.flatten).Nodup :=
          perm.nodup_iff.2 (ascending.imp Nat.ne_of_lt)
        refine .trans ?_ (perm.filter _)
        rw [List.flatten_cons, List.filter_append, List.filter_eq_nil_iff.2 (by simp),
          List.nil_append, List.filter_eq_self.2]
        intro vertex member
        simpa using fun own => List.disjoint_of_nodup_append apart own member
      refine List.mem_flatMap.2 ⟨group, List.mem_sublistsLen.2 ⟨part, rfl⟩, ?_⟩
      exact List.mem_map_of_mem (ih (ascending.sublist List.filter_sublist)
        (fun other member => sorted other (List.mem_cons_of_mem _ member)) others)

theorem pairwise_of_groups? {groups : List (List Nat)} (given : ofGroups? groups = some roles) :
    ∀ group ∈ roles.groups, group.Pairwise (· ≤ ·) := by
  rw [ofGroups?] at given
  split at given
  · obtain rfl := Option.some.inj given
    intro group member
    obtain ⟨original, -, rfl⟩ := List.mem_map.1 member
    rw [sort_by_eq_insertion_sort]
    exact List.pairwise_insertionSort (· ≤ ·) original
  · cases given

end Roles

/-- Accepted roles, taken by size, are one of the fillings of the shape. -/
theorem Shape.by_size_mem_fillings {shape : Shape} {roles : Roles} {groups : List (List Nat)}
    (given : Roles.ofGroups? groups = some roles) (accepted : shape.accepts roles = true) :
    roles.bySize.groups ∈
      Roles.fillings (List.range shape.size) (shape.parts.insertionSort (· ≤ ·)) := by
  rw [accepts, Bool.and_eq_true] at accepted
  obtain ⟨fitting, partition⟩ := accepted
  have sizes : roles.bySize.groups.map List.length = shape.parts.insertionSort (· ≤ ·) := by
    rw [roles.lengths_by_size]
    exact List.Perm.eq_of_pairwise'
      (List.pairwise_insertionSort _ _) (List.pairwise_insertionSort _ _)
      ((List.perm_insertionSort _ _).trans
        ((List.isPerm_iff.1 fitting).trans (List.perm_insertionSort _ _).symm))
  rw [← sizes]
  refine Roles.mem_fillings List.pairwise_lt_range ?_
    (roles.flatten_by_size.trans (Roles.flatten_perm partition))
  intro group member
  exact Roles.pairwise_of_groups? given group ((List.mem_insertionSort _).1 member)

theorem Shape.of_groups?_of_roles {shape : Shape} {number : Nat} {roles : Roles}
    (given : shape.roles number = .ok roles) :
    number < shape.count ∧ ∃ groups, Roles.ofGroups? groups = some roles := by
  unfold Shape.roles at given
  split_ifs at given with _ outside _
  refine ⟨Nat.not_le.1 outside, ?_⟩
  split at given
  next => cases given
  next groups _ =>
      split at given
      next => cases given
      next made =>
          obtain rfl := Except.ok.inj given
          exact ⟨groups, made⟩

end StabilizerPrep
