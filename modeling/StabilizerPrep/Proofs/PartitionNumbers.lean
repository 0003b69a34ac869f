import StabilizerPrep.Proofs.Coherence

/-!
# The numbers of partitions

A shape accepts exactly the roles that divide its vertices, and it numbers them:
every number below the count has a partition, and a partition has the number of
another one just if both have the same groups and the same group is marked as the
first of its size, where the shape tells it apart. Groups may come in any order,
since they are looked up by size, so only finitely many arrangements are left to
compare.

The masks with which disjoint groups are recognized have a place for each of the
vertices below `Roles.places`. Roles with the sizes of the shape are refused, and
not just rejected, if a vertex beyond these is met before two groups overlap. Nor
can the partitions of no vertices into a pair and the others be counted.
-/

namespace StabilizerPrep

set_option autoImplicit false

open Mask

namespace Roles

variable {roles : Roles} {groups : List (List Nat)}

theorem and_group_mask_eq_zero_iff (seen : Nat) (group : List Nat) :
    seen &&& groupMask group = 0 ↔ ∀ vertex ∈ group, seen.testBit vertex = false := by
  constructor
  · intro apart vertex member
    have bit := congrArg (Nat.testBit · vertex) apart
    rw [Nat.testBit_and, test_bit_group_mask, List.contains_iff_mem.2 member, Bool.and_true,
      Nat.zero_testBit] at bit
    exact bit
  · intro fresh
    apply Nat.eq_of_testBit_eq
    intro vertex
    rw [Nat.testBit_and, test_bit_group_mask, Nat.zero_testBit]
    by_cases member : vertex ∈ group
    · rw [fresh vertex member, Bool.false_and]
    · rw [Bool.eq_false_iff.2 (mt List.contains_iff_mem.1 member), Bool.and_false]

theorem test_bit_or_group_mask (seen : Nat) (group : List Nat) (vertex : Nat) :
    (seen ||| groupMask group).testBit vertex = false ↔
      seen.testBit vertex = false ∧ vertex ∉ group := by
  rw [Nat.testBit_or, test_bit_group_mask, Bool.or_eq_false_iff]
  simp

theorem exists_cover {seen : Nat} (disjoint : groups.Pairwise List.Disjoint)
    (fresh : ∀ group ∈ groups, ∀ vertex ∈ group, seen.testBit vertex = false) :
    ∃ whole, cover seen groups = some whole := by
  induction groups generalizing seen with
  | nil => exact ⟨seen, rfl⟩
  | cons group groups ih =>
      obtain ⟨apart, others⟩ := List.pairwise_cons.1 disjoint
      rw [cover,
        if_pos ((and_group_mask_eq_zero_iff seen group).2 (fresh group List.mem_cons_self))]
      apply ih others
      intro other member vertex inside
      rw [test_bit_or_group_mask]
      exact ⟨fresh other (List.mem_cons_of_mem _ member) vertex inside,
        fun own => apart other member own inside⟩

theorem is_partition_iff {size : Nat} :
    roles.isPartition size = true ↔ roles.groups.flatten.Perm (List.range size) := by
  refine ⟨flatten_perm, fun perm => ?_⟩
  have distinct := perm.nodup_iff.2 List.nodup_range
  obtain ⟨whole, covered⟩ : ∃ whole, cover 0 roles.groups = some whole :=
    exists_cover (List.nodup_flatten.1 distinct).2 fun _ _ vertex _ => Nat.zero_testBit vertex
  have full : whole = Mask.full size := by
    apply Nat.eq_of_testBit_eq
    intro vertex
    rw [test_bit_cover covered, Nat.zero_testBit, Bool.false_or, full,
      Nat.testBit_two_pow_sub_one, Bool.eq_iff_iff, List.contains_iff_mem, perm.mem_iff,
      List.mem_range, decide_eq_true_eq]
  have counted := perm.length_eq
  rw [List.length_flatten, List.length_range] at counted
  rw [isPartition, covered, full, counted]
  simp

/-- There is a vertex without a place in a mask, and the groups before its group
are disjoint and have only vertices with a place. -/
def LeavesMask (groups : List (List Nat)) : Prop :=
  ∃ earlier group later, groups = earlier ++ group :: later ∧ earlier.Pairwise List.Disjoint ∧
    (∀ other ∈ earlier, ∀ vertex ∈ other, vertex < places) ∧ ∃ vertex ∈ group, places ≤ vertex

/-- The first group has a vertex without a place, or all its vertices have one and
are new, and the search goes on behind it. -/
theorem overflows_cons_iff (seen : Nat) (first : List Nat) (groups : List (List Nat)) :
    overflows seen (first :: groups) = true ↔
      (∃ vertex ∈ first, places ≤ vertex) ∨
        (∀ vertex ∈ first, vertex < places ∧ seen.testBit vertex = false) ∧
          overflows (seen ||| groupMask first) groups = true := by
  rw [overflows, groupMask?]
  by_cases placed : first.all (· < places) = true
  · have within : ∀ vertex ∈ first, vertex < places := by simpa using placed
    have none : ¬∃ vertex ∈ first, places ≤ vertex := by simpa using within
    rw [if_pos placed]
    dsimp only
    rw [Bool.and_eq_true, beq_iff_eq, and_group_mask_eq_zero_iff, or_iff_right none]
    exact and_congr_left fun _ => forall₂_congr fun vertex member =>
      (and_iff_right (within vertex member)).symm
  · have outside : ∃ vertex ∈ first, places ≤ vertex := by simpa using placed
    rw [if_neg placed]
    exact iff_of_true rfl (.inl outside)

theorem overflows_iff_of_seen (seen : Nat) (groups : List (List Nat)) :
    overflows seen groups = true ↔
      ∃ earlier group later, groups = earlier ++ group :: later ∧
        earlier.Pairwise List.Disjoint ∧
        (∀ other ∈ earlier, ∀ vertex ∈ other, vertex < places ∧ seen.testBit vertex = false) ∧
        ∃ vertex ∈ group, places ≤ vertex := by
  induction groups generalizing seen with
  | nil => simp [overflows]
  | cons first groups ih =>
      rw [overflows_cons_iff, ih]
      simp only [test_bit_or_group_mask]
      constructor
      · rintro (outside | ⟨placed, earlier, group, later, rfl, disjoint, inside, outside⟩)
        · exact ⟨[], first, groups, rfl, .nil, by simp, outside⟩
        · refine ⟨first :: earlier, group, later, rfl, List.pairwise_cons.2 ⟨?_, disjoint⟩,
            List.forall_mem_cons.2 ⟨placed, ?_⟩, outside⟩
          · intro other member vertex own shared
            exact (inside other member vertex shared).2.2 own
          · intro other member vertex own
            obtain ⟨below, unseen, -⟩ := inside other member vertex own
            exact ⟨below, unseen⟩
      · rintro ⟨earlier, group, later, split, disjoint, inside, outside⟩
        cases earlier with
        | nil =>
            obtain ⟨rfl, rfl⟩ := List.cons.inj split
            exact .inl outside
        | cons other earlier =>
            obtain ⟨rfl, rfl⟩ := List.cons.inj split
            obtain ⟨apart, others⟩ := List.pairwise_cons.1 disjoint
            obtain ⟨placed, rest⟩ := List.forall_mem_cons.1 inside
            refine .inr ⟨placed, earlier, group, later, rfl, others, ?_, outside⟩
            intro other member vertex own
            obtain ⟨below, unseen⟩ := rest other member vertex own
            exact ⟨below, unseen, fun shared => apart other member shared own⟩

theorem overflows_iff : overflows 0 groups = true ↔ LeavesMask groups := by
  rw [overflows_iff_of_seen, LeavesMask]
  simp only [Nat.zero_testBit, and_true]

end Roles

namespace Shape

variable {shape : Shape} {roles : Roles} {groups : List (List Nat)}

/-- The groups are sets, they are disjoint, their union is the vertices of the
shape, and their sizes are those of the shape. -/
structure Divides (shape : Shape) (roles : Roles) : Prop where
  sets : ∀ group ∈ roles.groups, group.Nodup
  disjoint : roles.groups.Pairwise List.Disjoint
  union : ∀ vertex, (∃ group ∈ roles.groups, vertex ∈ group) ↔ vertex < shape.size
  sizes : (roles.groups.map List.length).Perm shape.parts

/-- A shape accepts the roles that divide its vertices, and no others. -/
theorem accepts_iff : shape.accepts roles = true ↔ shape.Divides roles := by
  rw [accepts, fits, Bool.and_eq_true, List.isPerm_iff, Roles.is_partition_iff]
  constructor
  · rintro ⟨sizes, perm⟩
    obtain ⟨sets, disjoint⟩ := List.nodup_flatten.1 (perm.nodup_iff.2 List.nodup_range)
    refine ⟨sets, disjoint, ?_, sizes⟩
    intro vertex
    rw [← List.mem_range, ← perm.mem_iff, List.mem_flatten]
  · rintro ⟨sets, disjoint, union, sizes⟩
    refine ⟨sizes, (List.perm_ext_iff_of_nodup (List.nodup_flatten.2 ⟨sets, disjoint⟩)
      List.nodup_range).2 ?_⟩
    intro vertex
    rw [List.mem_range, ← union, List.mem_flatten]

theorem accepts?_eq (shape : Shape) (roles : Roles) :
    shape.accepts? roles =
      if shape.fits roles = true ∧ Roles.overflows 0 roles.groups = true then none
      else some (shape.accepts roles) := by
  rw [accepts?, Roles.isPartition?, accepts]
  cases shape.fits roles with
  | false => simp
  | true => simp

theorem accepts?_eq_none_iff :
    shape.accepts? roles = none ↔ shape.fits roles = true ∧ Roles.LeavesMask roles.groups := by
  rw [accepts?_eq, ← Roles.overflows_iff]
  split <;> simp_all

theorem Divides.not_leaves_mask (divides : shape.Divides roles)
    (small : shape.size ≤ Roles.capacity) : ¬Roles.LeavesMask roles.groups := by
  rintro ⟨earlier, group, later, split, -, -, vertex, member, beyond⟩
  have inside := (divides.union vertex).1 ⟨group, by simp [split], member⟩
  rw [Roles.capacity] at small
  rw [Roles.places] at beyond
  omega

theorem accepts?_eq_true_iff (small : shape.size ≤ Roles.capacity) :
    shape.accepts? roles = some true ↔ shape.Divides roles := by
  rw [accepts?_eq]
  constructor
  · intro accepted
    split at accepted
    next => cases accepted
    next => exact accepts_iff.1 (Option.some.inj accepted)
  · intro divides
    have placed := mt Roles.overflows_iff.1 (divides.not_leaves_mask small)
    rw [if_neg fun refused => placed refused.2, accepts_iff.2 divides]

def mark (shape : Shape) (roles : Roles) : List Nat :=
  match shape with
  | .singleRest _ | .orderedSinglesPairs => roles.group 1 0
  | .pairRest _ => roles.group 2 0
  | _ => []

theorem mark_congr {first second : Roles} (same : first.group = second.group) :
    shape.mark first = shape.mark second := by
  cases shape <;> simp only [mark, same]

structure Alike (shape : Shape) (first second : Roles) : Prop where
  groups : first.groups.Perm second.groups
  mark : shape.mark first = shape.mark second

instance (shape : Shape) (first second : Roles) : Decidable (shape.Alike first second) :=
  decidable_of_iff (first.groups.Perm second.groups ∧ shape.mark first = shape.mark second)
    ⟨fun ⟨groups, mark⟩ => ⟨groups, mark⟩, fun ⟨groups, mark⟩ => ⟨groups, mark⟩⟩

theorem Alike.symm {first second : Roles} (alike : shape.Alike first second) :
    shape.Alike second first :=
  ⟨alike.groups.symm, alike.mark.symm⟩

theorem Alike.trans {first second third : Roles} (alike : shape.Alike first second)
    (other : shape.Alike second third) : shape.Alike first third :=
  ⟨alike.groups.trans other.groups, alike.mark.trans other.mark⟩

theorem alike_by_size (shape : Shape) (roles : Roles) : shape.Alike roles.bySize roles :=
  ⟨List.perm_insertionSort _ _, mark_congr roles.group_by_size⟩

def fingerprint (shape : Shape) (roles : Roles) : Nat × Nat :=
  ((roles.groups.map fun group => 2 ^ (Roles.groupMask group)).sum,
    Roles.groupMask (shape.mark roles))

theorem Alike.fingerprint_eq {first second : Roles} (alike : shape.Alike first second) :
    shape.fingerprint first = shape.fingerprint second := by
  rw [fingerprint, fingerprint, (alike.groups.map _).sum_nat, alike.mark]

def givesBack (shape : Shape) (groups : List (List Nat)) : Bool :=
  match shape.rank? ⟨groups⟩ with
  | some number =>
      match shape.roles number with
      | .ok again => decide groups.Nodup && decide (shape.Alike again ⟨groups⟩)
      | .error _ => false
  | none => false

def fingerprints (shape : Shape) : List (Option (Nat × Nat)) :=
  (List.range shape.count).map fun number => (shape.roles number).toOption.map shape.fingerprint

def isNumbering (shape : Shape) : Bool :=
  (List.range shape.count).all shape.isNumbered && decide shape.fingerprints.Nodup &&
    (Roles.fillings (List.range shape.size) (shape.parts.insertionSort (· ≤ ·))).all shape.givesBack

theorem mem_every (shape : Shape) : shape ∈ every shape.size := by
  cases shape <;> simp [every, size]

theorem is_numbering_eq (small : shape.size ≤ Roles.capacity) : shape.isNumbering = true := by
  have evaluated : (List.range 7).all (fun size =>
      (every size).all fun shape => shape.size != size || shape.isNumbering) = true := by
    decide +kernel
  rw [Roles.capacity] at small
  have each := List.all_eq_true.1 evaluated shape.size (List.mem_range.2 (by omega))
  have own := List.all_eq_true.1 each shape shape.mem_every
  simpa using own

theorem number?_eq_some_iff {number : Nat} :
    shape.number? roles = some number ↔
      shape.accepts roles = true ∧ shape.rank? roles = some number := by
  rw [number?]
  split
  next accepted => rw [and_iff_right accepted]
  next refused => exact iff_of_false nofun fun both => refused both.1

theorem exists_roles (small : shape.size ≤ Roles.capacity) {number : Nat}
    (inside : number < shape.count) :
    ∃ roles, shape.roles number = .ok roles ∧ shape.number? roles = some number := by
  have evaluated := is_numbering_eq small
  rw [isNumbering, Bool.and_eq_true, Bool.and_eq_true] at evaluated
  have numbered := List.all_eq_true.1 evaluated.1.1 number (List.mem_range.2 inside)
  rw [isNumbered] at numbered
  split at numbered
  next roles given =>
      rw [Bool.and_eq_true, beq_iff_eq] at numbered
      exact ⟨roles, given, number?_eq_some_iff.2 numbered⟩
  next => exact absurd numbered (by decide)

/-- A partition has a number, and the partition with that number is like it. -/
theorem exists_number (small : shape.size ≤ Roles.capacity)
    (given : Roles.ofGroups? groups = some roles) (accepted : shape.accepts roles = true) :
    roles.groups.Nodup ∧ ∃ number again, shape.number? roles = some number ∧
      shape.roles number = .ok again ∧ shape.Alike again roles := by
  have evaluated := is_numbering_eq small
  rw [isNumbering, Bool.and_eq_true, Bool.and_eq_true] at evaluated
  -- nothing but the order of the groups differs from a filling
  have filled : shape.givesBack roles.bySize.groups = true :=
    List.all_eq_true.1 evaluated.2 _ (by_size_mem_fillings given accepted)
  have arranged := shape.alike_by_size roles
  rw [givesBack, show (⟨roles.bySize.groups⟩ : Roles) = roles.bySize from rfl,
    shape.rank?_congr roles.group_by_size] at filled
  split at filled
  next number ranked =>
      split at filled
      next again listed =>
          rw [Bool.and_eq_true, decide_eq_true_eq, decide_eq_true_eq] at filled
          obtain ⟨distinct, alike⟩ := filled
          exact ⟨arranged.groups.nodup_iff.1 distinct, number, again,
            number?_eq_some_iff.2 ⟨accepted, ranked⟩, listed, alike.trans arranged⟩
      next => exact absurd filled (by decide)
  next => exact absurd filled (by decide)

theorem eq_of_alike (small : shape.size ≤ Roles.capacity) {first second : Nat} {one two : Roles}
    (firstGiven : shape.roles first = .ok one) (secondGiven : shape.roles second = .ok two)
    (alike : shape.Alike one two) : first = second := by
  have evaluated := is_numbering_eq small
  rw [isNumbering, Bool.and_eq_true, Bool.and_eq_true, decide_eq_true_eq] at evaluated
  have firstInside := List.mem_range.2 (of_groups?_of_roles firstGiven).1
  have secondInside := List.mem_range.2 (of_groups?_of_roles secondGiven).1
  apply List.inj_on_of_nodup_map evaluated.1.2 firstInside secondInside
  rw [firstGiven, secondGiven]
  exact congrArg some alike.fingerprint_eq

theorem roles_of_count_le (small : shape.size ≤ Roles.capacity) {number : Nat}
    (outside : shape.count ≤ number) :
    shape.roles number =
      .error (if shape = .pairRest 0 then .unrepresentable else .noSuchNumber) := by
  have countable : shape.isCountable = false ↔ shape = .pairRest 0 := by
    cases shape with
    | pairRest size =>
        have evaluated : ∀ size < 7, (pairRest size).isCountable = false ↔ size = 0 := by decide
        rw [pairRest.injEq]
        exact evaluated size (Nat.lt_succ_of_le small)
    | _ => simp [isCountable]
  rw [roles]
  by_cases none : shape = .pairRest 0
  · rw [if_pos none, countable.2 none]
    rfl
  · have counted : shape.isCountable = true := by
      rw [← Bool.not_eq_false]
      exact mt countable.1 none
    rw [if_neg none, counted, if_neg (by decide), if_pos outside]

/-- The numbering of a shape on at most six vertices, for all roles that can be
given. It is defined for the roles that divide the vertices, and for no others;
those that fit and leave the mask are refused. The number of a partition is below
the count and leads to a partition with the same groups. Each number below the
count is the number of its partition, and there is no partition from the count on.
Two partitions have the same number exactly when they have the same set of groups
and the same group is told apart. -/
theorem numbering_bijective (small : shape.size ≤ Roles.capacity) :
    (∀ groups roles, Roles.ofGroups? groups = some roles →
      (shape.accepts? roles = none ↔ (roles.groups.map List.length).Perm shape.parts ∧
        Roles.LeavesMask roles.groups) ∧
      (shape.accepts? roles = some true ↔ shape.Divides roles) ∧
      ((∃ number, shape.number? roles = some number) ↔ shape.Divides roles) ∧
      ∀ number, shape.number? roles = some number → number < shape.count ∧
        ∃ again, shape.roles number = .ok again ∧ again.groups.Perm roles.groups) ∧
    (∀ number < shape.count, ∃ roles, shape.roles number = .ok roles ∧
      shape.number? roles = some number) ∧
    (∀ number, shape.count ≤ number → shape.roles number =
      .error (if shape = .pairRest 0 then .unrepresentable else .noSuchNumber)) ∧
    ∀ groups others one two, Roles.ofGroups? groups = some one →
      Roles.ofGroups? others = some two → ∀ first second, shape.number? one = some first →
        shape.number? two = some second →
          (first = second ↔ (∀ group, group ∈ one.groups ↔ group ∈ two.groups) ∧
            shape.mark one = shape.mark two) := by
  refine ⟨?_, fun number => exists_roles small, fun number => roles_of_count_le small, ?_⟩
  · intro groups roles given
    refine ⟨by rw [accepts?_eq_none_iff, fits, List.isPerm_iff], accepts?_eq_true_iff small,
      ?_, ?_⟩
    · rw [← accepts_iff]
      constructor
      · rintro ⟨number, numbered⟩
        exact (number?_eq_some_iff.1 numbered).1
      · intro accepted
        obtain ⟨-, number, -, numbered, -⟩ := exists_number small given accepted
        exact ⟨number, numbered⟩
    · intro number numbered
      obtain ⟨-, same, again, own, listed, alike⟩ :=
        exists_number small given (number?_eq_some_iff.1 numbered).1
      obtain rfl : number = same := Option.some.inj (numbered.symm.trans own)
      exact ⟨(of_groups?_of_roles listed).1, again, listed, alike.groups⟩
  · intro groups others one two oneGiven twoGiven first second firstNumbered secondNumbered
    obtain ⟨oneDistinct, _, oneAgain, oneOwn, oneListed, oneAlike⟩ :=
      exists_number small oneGiven (number?_eq_some_iff.1 firstNumbered).1
    obtain ⟨twoDistinct, _, twoAgain, twoOwn, twoListed, twoAlike⟩ :=
      exists_number small twoGiven (number?_eq_some_iff.1 secondNumbered).1
    obtain rfl := Option.some.inj (firstNumbered.symm.trans oneOwn)
    obtain rfl := Option.some.inj (secondNumbered.symm.trans twoOwn)
    rw [← List.perm_ext_iff_of_nodup oneDistinct twoDistinct]
    constructor
    · rintro rfl
      obtain rfl : oneAgain = twoAgain := Except.ok.inj (oneListed.symm.trans twoListed)
      have alike := oneAlike.symm.trans twoAlike
      exact ⟨alike.groups, alike.mark⟩
    · rintro ⟨perm, marks⟩
      exact eq_of_alike small oneListed twoListed
        ((oneAlike.trans ⟨perm, marks⟩).trans twoAlike.symm)

/-- Two vertices and two pairs in two orders: the groups are the same, but another
vertex is the first one. -/
theorem numbering_bijective_exchanged :
    ∃ one two again, Roles.ofGroups? [[4, 5], [2], [3, 0], [1]] = some one ∧
      Roles.ofGroups? [[1], [0, 3], [2], [5, 4]] = some two ∧ orderedSinglesPairs.Divides one ∧
      orderedSinglesPairs.number? one = some 33 ∧ orderedSinglesPairs.number? two = some 18 ∧
      orderedSinglesPairs.roles 33 = .ok again ∧ again.groups.Perm one.groups ∧
      (∀ group, group ∈ one.groups ↔ group ∈ two.groups) ∧
      orderedSinglesPairs.mark one ≠ orderedSinglesPairs.mark two := by
  obtain ⟨each, -, -, pairs⟩ := @numbering_bijective orderedSinglesPairs (by decide)
  obtain ⟨-, -, divides, numbers⟩ :=
    each [[4, 5], [2], [3, 0], [1]] ⟨[[4, 5], [2], [0, 3], [1]]⟩ rfl
  obtain ⟨-, again, listed, perm⟩ := numbers 33 rfl
  have same : ∀ group, group ∈ [[4, 5], [2], [0, 3], [1]] ↔ group ∈ [[1], [0, 3], [2], [4, 5]] := by
    intro group
    simp only [List.mem_cons, List.not_mem_nil, or_false]
    tauto
  refine ⟨_, _, again, rfl, rfl, divides.1 ⟨33, rfl⟩, rfl, rfl, listed, perm, same, ?_⟩
  intro marks
  have equal := (pairs [[4, 5], [2], [3, 0], [1]] [[1], [0, 3], [2], [5, 4]] _ _ rfl rfl 33 18 rfl
    rfl).2 ⟨same, marks⟩
  cases equal

/-- A vertex without a place is refused, although it does not divide the one vertex
of the shape, and so is every number of a partition of no vertices into a pair and
the others. -/
theorem refused_outside_mask :
    ∃ roles, Roles.ofGroups? [[32]] = some roles ∧ (whole 1).accepts? roles = none ∧
      ¬(whole 1).Divides roles ∧ (pairRest 0).roles 0 = .error .unrepresentable := by
  refine ⟨⟨[[32]]⟩, rfl, rfl, ?_, rfl⟩
  intro divides
  have inside := (divides.union 32).1 ⟨[32], by decide, by decide⟩
  exact absurd inside (by decide)

end Shape

end StabilizerPrep
