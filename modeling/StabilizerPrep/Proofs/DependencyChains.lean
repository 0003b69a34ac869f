import Mathlib.Data.List.Chain
import Mathlib.Order.Bounds.Basic
import StabilizerPrep.Proofs.CircuitHistory
import StabilizerPrep.Proofs.Metrics

/-!
# Chains of dependent instructions

Instructions that share a qubit have to wait for each other. A schedule that
starts every two-qubit instruction as soon as both of its qubits are free keeps
a qubit busy for exactly as long as the most expensive chain of dependent
instructions that ends on it. So the depth of a circuit is the cost of its most
expensive chain. A chain read backwards is a chain of the inverse circuit, and a
chain of two circuits in a row falls into one of each.
-/

namespace StabilizerPrep

set_option autoImplicit false

open Circuit

def Instruction.Shares (first second : Instruction) : Prop :=
  ∃ qubit ∈ first.qubits, qubit ∈ second.qubits

theorem Instruction.Shares.symm {first second : Instruction} (shares : first.Shares second) :
    second.Shares first := by
  obtain ⟨qubit, own, other⟩ := shares
  exact ⟨qubit, other, own⟩

theorem Instruction.exists_operands {instruction : Instruction}
    (two : instruction.isTwoQubit = true) :
    ∃ first second, instruction.qubits = [first, second] :=
  List.length_eq_two.1 (beq_iff_eq.1 two)

/-- Some of the instructions, in their order, each of which shares a qubit with
the next. -/
structure Chain (instructions chain : List Instruction) : Prop where
  sublist : chain.Sublist instructions
  linked : chain.IsChain Instruction.Shares

namespace Chain

variable {instructions chain first second : List Instruction} {instruction : Instruction}

theorem nil (instructions : List Instruction) : Chain instructions [] :=
  ⟨List.nil_sublist instructions, .nil⟩

theorem singleton (member : instruction ∈ instructions) : Chain instructions [instruction] :=
  ⟨List.singleton_sublist.2 member, .singleton instruction⟩

theorem mono (own : Chain first chain) (part : first.Sublist second) : Chain second chain :=
  ⟨own.sublist.trans part, own.linked⟩

theorem reverse (own : Chain instructions chain) : Chain instructions.reverse chain.reverse := by
  constructor
  · exact own.sublist.reverse
  · apply List.isChain_reverse.2
    exact own.linked.imp fun _ _ => Instruction.Shares.symm

theorem exists_append (own : Chain (first ++ second) chain) :
    ∃ earlier later, chain = earlier ++ later ∧ Chain first earlier ∧ Chain second later ∧
      ∀ last ∈ earlier.getLast?, ∀ next ∈ later.head?, last.Shares next := by
  obtain ⟨earlier, later, rfl, front, back⟩ := List.sublist_append_iff.1 own.sublist
  obtain ⟨frontLinked, backLinked, joint⟩ := List.isChain_append.1 own.linked
  exact ⟨earlier, later, rfl, ⟨front, frontLinked⟩, ⟨back, backLinked⟩, joint⟩

theorem concat (own : Chain instructions chain)
    (joint : ∀ last ∈ chain.getLast?, last.Shares instruction) :
    Chain (instructions ++ [instruction]) (chain ++ [instruction]) := by
  constructor
  · exact own.sublist.append (List.Sublist.refl [instruction])
  · apply List.isChain_append.2
    refine ⟨own.linked, .singleton instruction, ?_⟩
    intro last lastMember next nextMember
    obtain rfl : instruction = next := Option.some.inj nextMember
    exact joint last lastMember

/-- A chain does without the last instruction or ends with it. -/
theorem cases_concat (own : Chain (instructions ++ [instruction]) chain) :
    Chain instructions chain ∨ ∃ earlier, chain = earlier ++ [instruction] ∧
      Chain instructions earlier ∧ ∀ last ∈ earlier.getLast?, last.Shares instruction := by
  obtain ⟨earlier, later, rfl, front, back, joint⟩ := own.exists_append
  rcases List.sublist_singleton.1 back.sublist with rfl | rfl
  · rw [List.append_nil]
    exact .inl front
  · exact .inr ⟨earlier, rfl, front, fun last member => joint last member instruction rfl⟩

def EndsOn (qubit : Nat) (chain : List Instruction) : Prop :=
  ∀ last ∈ chain.getLast?, qubit ∈ last.qubits

theorem ends_on_concat {qubit : Nat} :
    EndsOn qubit (chain ++ [instruction]) ↔ qubit ∈ instruction.qubits := by
  simp [EndsOn]

theorem exists_ends_on {given : Nat → Prop} (any : ∃ qubit, given qubit)
    (each : ∀ last ∈ chain.getLast?, ∃ qubit ∈ last.qubits, given qubit) :
    ∃ qubit, given qubit ∧ EndsOn qubit chain := by
  unfold EndsOn
  cases ending : chain.getLast? with
  | none =>
      obtain ⟨qubit, member⟩ := any
      exact ⟨qubit, member, fun last impossible => by cases impossible⟩
  | some last =>
      obtain ⟨qubit, own, member⟩ := each last ending
      refine ⟨qubit, member, fun found same => ?_⟩
      obtain rfl : last = found := Option.some.inj same
      exact own

def costs (instructions : List Instruction) : Set Nat :=
  {cost | ∃ chain, Chain instructions chain ∧ nativeCost chain = cost}

def costsOn (qubit : Nat) (instructions : List Instruction) : Set Nat :=
  {cost | ∃ chain, Chain instructions chain ∧ EndsOn qubit chain ∧ nativeCost chain = cost}

theorem costs_mono (part : first.Sublist second) : costs first ⊆ costs second := by
  intro cost member
  obtain ⟨chain, own, equal⟩ := member
  exact ⟨chain, own.mono part, equal⟩

theorem costs_reverse (instructions : List Instruction) :
    costs instructions.reverse = costs instructions := by
  have backwards : ∀ list : List Instruction, costs list ⊆ costs list.reverse := by
    intro list cost member
    obtain ⟨chain, own, equal⟩ := member
    exact ⟨chain.reverse, own.reverse, by rw [native_cost_reverse, equal]⟩
  apply Set.Subset.antisymm
  · have twice := backwards instructions.reverse
    rwa [List.reverse_reverse] at twice
  · exact backwards instructions

theorem exists_of_mem_costs_append {cost : Nat} (member : cost ∈ costs (first ++ second)) :
    ∃ earlier ∈ costs first, ∃ later ∈ costs second, cost = earlier + later := by
  obtain ⟨chain, own, rfl⟩ := member
  obtain ⟨earlier, later, rfl, front, back, -⟩ := own.exists_append
  exact ⟨_, ⟨earlier, front, rfl⟩, _, ⟨later, back, rfl⟩, native_cost_append earlier later⟩

end Chain

namespace Schedule

variable {schedule : Schedule} {instructions : List Instruction} {instruction : Instruction}
  {first second : Nat}

theorem busy_place (operands : instruction.qubits = [first, second]) (qubit : Nat) :
    (schedule.place instruction).busy qubit =
      if qubit ∈ instruction.qubits then schedule.finish first second instruction.gate.cost
      else schedule.busy qubit := by
  simp only [place, finish, operands, List.mem_cons, List.not_mem_nil, or_false]

theorem depth_place (operands : instruction.qubits = [first, second]) :
    (schedule.place instruction).depth =
      max schedule.depth (schedule.finish first second instruction.gate.cost) := by
  simp only [place, finish, operands]

theorem busy_add_cost_le (schedule : Schedule)
    (operands : instruction.qubits = [first, second]) {qubit : Nat}
    (acted : qubit ∈ instruction.qubits) :
    schedule.busy qubit + instruction.gate.cost ≤
      schedule.finish first second instruction.gate.cost := by
  unfold finish
  rw [operands] at acted
  rcases List.mem_pair.1 acted with rfl | rfl <;> omega

theorem exists_busy_add_cost (schedule : Schedule)
    (operands : instruction.qubits = [first, second]) :
    ∃ qubit ∈ instruction.qubits, schedule.busy qubit + instruction.gate.cost =
      schedule.finish first second instruction.gate.cost := by
  unfold finish
  rcases Nat.le_total (schedule.busy first) (schedule.busy second) with later | later
  · exact ⟨second, by simp [operands], by rw [Nat.max_eq_right later]⟩
  · exact ⟨first, by simp [operands], by rw [Nat.max_eq_left later]⟩

theorem busy_le_busy_place (operands : instruction.qubits = [first, second]) (qubit : Nat) :
    schedule.busy qubit ≤ (schedule.place instruction).busy qubit := by
  rw [busy_place operands]
  split
  next acted => exact Nat.le_trans (Nat.le_add_right _ _) (busy_add_cost_le schedule operands acted)
  next => exact Nat.le_refl _

/-- The schedule has seen the instructions: every qubit is busy for as long as
the most expensive chain that ends on it, and the depth is the last layer in
which some qubit is busy. -/
structure Measures (instructions : List Instruction) (schedule : Schedule) : Prop where
  busy : ∀ qubit, IsGreatest (Chain.costsOn qubit instructions) (schedule.busy qubit)
  depth : IsGreatest (Set.range schedule.busy) schedule.depth

theorem measures_start : Measures [] start where
  busy qubit := by
    constructor
    · refine ⟨[], .nil [], ?_, rfl⟩
      intro last impossible
      cases impossible
    · intro cost member
      obtain ⟨chain, own, -, rfl⟩ := member
      rw [List.sublist_nil.1 own.sublist]
      exact Nat.le_refl 0
  depth := by
    constructor
    · exact ⟨0, rfl⟩
    · intro layer member
      obtain ⟨qubit, rfl⟩ := member
      exact Nat.le_refl 0

/-- The instruction follows the most expensive chain that ends on one of its
qubits. -/
theorem Measures.is_greatest_finish (measures : Measures instructions schedule)
    (operands : instruction.qubits = [first, second]) {qubit : Nat}
    (acted : qubit ∈ instruction.qubits) :
    IsGreatest (Chain.costsOn qubit (instructions ++ [instruction]))
      (schedule.finish first second instruction.gate.cost) := by
  constructor
  · obtain ⟨other, member, equal⟩ := exists_busy_add_cost schedule operands
    obtain ⟨chain, own, ending, cost⟩ := (measures.busy other).1
    have joint : ∀ last ∈ chain.getLast?, last.Shares instruction :=
      fun last found => ⟨other, ending last found, member⟩
    refine ⟨chain ++ [instruction], own.concat joint, Chain.ends_on_concat.2 acted, ?_⟩
    rw [native_cost_append, native_cost_singleton, cost, equal]
  · intro cost member
    obtain ⟨chain, own, ending, rfl⟩ := member
    rcases own.cases_concat with without | ⟨earlier, rfl, front, joint⟩
    · have bound := (measures.busy qubit).2 ⟨chain, without, ending, rfl⟩
      have room := busy_add_cost_le schedule operands acted
      omega
    · obtain ⟨other, shared, otherEnding⟩ := Chain.exists_ends_on ⟨qubit, acted⟩ joint
      have bound := (measures.busy other).2 ⟨earlier, front, otherEnding, rfl⟩
      have room := busy_add_cost_le schedule operands shared
      rw [native_cost_append, native_cost_singleton]
      omega

theorem Measures.is_greatest_other (measures : Measures instructions schedule) {qubit : Nat}
    (free : qubit ∉ instruction.qubits) :
    IsGreatest (Chain.costsOn qubit (instructions ++ [instruction])) (schedule.busy qubit) := by
  obtain ⟨⟨chain, own, ending, cost⟩, bound⟩ := measures.busy qubit
  constructor
  · exact ⟨chain, own.mono (List.sublist_append_left _ _), ending, cost⟩
  · intro other member
    obtain ⟨chain, own, ending, rfl⟩ := member
    rcases own.cases_concat with without | ⟨earlier, rfl, -, -⟩
    · exact bound ⟨chain, without, ending, rfl⟩
    · exact absurd (Chain.ends_on_concat.1 ending) free

theorem Measures.place (measures : Measures instructions schedule)
    (operands : instruction.qubits = [first, second]) :
    Measures (instructions ++ [instruction]) (schedule.place instruction) where
  busy qubit := by
    rw [busy_place operands]
    split
    next acted => exact measures.is_greatest_finish operands acted
    next free => exact measures.is_greatest_other free
  depth := by
    obtain ⟨⟨highest, reached⟩, bound⟩ := measures.depth
    have below : ∀ qubit, (schedule.place instruction).busy qubit ≤
        (schedule.place instruction).depth := by
      intro qubit
      rw [busy_place operands, depth_place operands]
      split
      · exact Nat.le_max_right _ _
      · exact Nat.le_trans (bound ⟨qubit, rfl⟩) (Nat.le_max_left _ _)
    constructor
    · -- either the instruction sets the depth, or the qubit that did before still does
      rcases Nat.le_total schedule.depth (schedule.finish first second instruction.gate.cost) with
        later | later
      · refine ⟨first, ?_⟩
        rw [busy_place operands, if_pos (by simp [operands]), depth_place operands,
          Nat.max_eq_right later]
      · refine ⟨highest, Nat.le_antisymm (below highest) ?_⟩
        rw [depth_place operands, Nat.max_eq_left later, ← reached]
        exact busy_le_busy_place operands highest
    · intro layer member
      obtain ⟨qubit, rfl⟩ := member
      exact below qubit

theorem measures_run (two : ∀ instruction ∈ instructions, instruction.isTwoQubit = true) :
    Measures instructions (instructions.foldl Schedule.place start) := by
  induction instructions using List.reverseRecOn with
  | nil => exact measures_start
  | append_singleton instructions instruction ih =>
      have measures := ih fun other member => two other (List.mem_append_left _ member)
      obtain ⟨first, second, operands⟩ :=
        Instruction.exists_operands (two instruction (List.mem_append_right _ List.mem_cons_self))
      rw [List.foldl_append]
      exact measures.place operands

/-- Every chain ends on some qubit, so the depth is the cost of the most
expensive one. -/
theorem Measures.is_greatest_depth (measures : Measures instructions schedule)
    (two : ∀ instruction ∈ instructions, instruction.isTwoQubit = true) :
    IsGreatest (Chain.costs instructions) schedule.depth := by
  obtain ⟨⟨highest, reached⟩, bound⟩ := measures.depth
  constructor
  · obtain ⟨chain, own, -, cost⟩ := (measures.busy highest).1
    exact ⟨chain, own, cost.trans reached⟩
  · intro cost member
    obtain ⟨chain, own, rfl⟩ := member
    have each : ∀ last ∈ chain.getLast?, ∃ qubit ∈ last.qubits, True := by
      intro last found
      obtain ⟨first, second, operands⟩ :=
        Instruction.exists_operands (two last (own.sublist.subset (List.mem_of_getLast? found)))
      exact ⟨first, by simp [operands], trivial⟩
    obtain ⟨qubit, -, ending⟩ := Chain.exists_ends_on ⟨0, trivial⟩ each
    exact Nat.le_trans ((measures.busy qubit).2 ⟨chain, own, ending, rfl⟩) (bound ⟨qubit, rfl⟩)

end Schedule

namespace Circuit

theorem is_greatest_depth (circuit : Circuit) :
    IsGreatest (Chain.costs circuit.twoQubit) circuit.metrics.depth := by
  have two : ∀ instruction ∈ circuit.twoQubit, instruction.isTwoQubit = true :=
    fun instruction member => (List.mem_filter.1 member).2
  rw [metrics_eq]
  exact (Schedule.measures_run two).is_greatest_depth two

/-- The count is that of all instructions, and the depth is the cost of the most
expensive chain of dependent two-qubit instructions, or zero if there are no
two-qubit instructions to chain. -/
theorem metrics_of_chains {circuit : Circuit} (wellFormed : circuit.WellFormed) :
    circuit.metrics.count = circuit.twoQubitCount ∧
    (circuit.twoQubit = [] → circuit.metrics.depth = 0) ∧
    (circuit.twoQubit ≠ [] →
      IsGreatest {cost | ∃ chain, chain ≠ [] ∧ Chain circuit.twoQubit chain ∧
        nativeCost chain = cost} circuit.metrics.depth) := by
  obtain ⟨⟨longest, own, cost⟩, bound⟩ := circuit.is_greatest_depth
  refine ⟨count_metrics wellFormed, ?_, ?_⟩
  · intro none
    rw [none] at own
    rw [← cost, List.sublist_nil.1 own.sublist]
    rfl
  · intro some
    constructor
    · by_cases empty : longest = []
      · -- then no chain costs anything, and one instruction is as expensive as none
        obtain ⟨instruction, member⟩ := List.exists_mem_of_ne_nil _ some
        have own := Chain.singleton member
        refine ⟨[instruction], List.cons_ne_nil _ _, own,
          Nat.le_antisymm (bound ⟨_, own, rfl⟩) ?_⟩
        rw [← cost, empty]
        exact Nat.zero_le _
      · exact ⟨longest, empty, own, cost⟩
    · intro other member
      obtain ⟨chain, -, chained, equal⟩ := member
      exact bound ⟨chain, chained, equal⟩

/-- The first circuit is worth seven gates, but no chain of it is worth more than
`cz0,1 swap1,2`. The second circuit has nothing to chain. -/
theorem metrics_of_chains_ring :
    let ring : Circuit := ⟨4, [⟨.cz, [0, 1]⟩, ⟨.cx, [2, 3]⟩, ⟨.h, [1]⟩, ⟨.swap, [1, 2]⟩,
      ⟨.cz, [3, 0]⟩, ⟨.cz, [3, 0]⟩]⟩
    let bare : Circuit := ⟨1, [⟨.h, [0]⟩]⟩
    ring.metrics = ⟨7, 4⟩ ∧
    IsGreatest {cost | ∃ chain, chain ≠ [] ∧ Chain ring.twoQubit chain ∧
      nativeCost chain = cost} ring.metrics.depth ∧
    bare.metrics.depth = 0 :=
  ⟨rfl, (metrics_of_chains (List.forall_iff_forall_mem.1 (by decide))).2.2 (by decide),
    (metrics_of_chains (List.forall_iff_forall_mem.1 (by decide))).2.1 rfl⟩

theorem depth_inverse {circuit : Circuit} (wellFormed : circuit.WellFormed) :
    circuit.inverse.metrics.depth = circuit.metrics.depth := by
  have backwards := circuit.inverse.is_greatest_depth
  rw [two_qubit_inverse wellFormed, Chain.costs_reverse] at backwards
  exact backwards.unique circuit.is_greatest_depth

theorem count_inverse {circuit : Circuit} (wellFormed : circuit.WellFormed) :
    circuit.inverse.metrics.count = circuit.metrics.count := by
  rw [metrics_eq, metrics_eq, two_qubit_inverse wellFormed]
  exact native_cost_reverse circuit.twoQubit

theorem metrics_inverse {circuit : Circuit} (wellFormed : circuit.WellFormed) :
    circuit.inverse.metrics = circuit.metrics :=
  congrArg₂ Metrics.mk (count_inverse wellFormed) (depth_inverse wellFormed)

section Compose

variable {first second joined : Circuit}

theorem two_qubit_compose (done : first.compose second = .ok joined) :
    joined.twoQubit = first.twoQubit ++ second.twoQubit := by
  obtain ⟨-, rfl⟩ := compose_eq_ok_iff.1 done
  exact List.filter_append _ _

theorem count_compose (done : first.compose second = .ok joined) :
    joined.metrics.count = first.metrics.count + second.metrics.count := by
  rw [metrics_eq, metrics_eq, metrics_eq, two_qubit_compose done]
  exact native_cost_append first.twoQubit second.twoQubit

/-- A chain of one of the circuits is a chain of both in a row. -/
theorem max_depth_le (done : first.compose second = .ok joined) :
    max first.metrics.depth second.metrics.depth ≤ joined.metrics.depth := by
  have whole := joined.is_greatest_depth
  rw [two_qubit_compose done] at whole
  apply Nat.max_le.2
  constructor
  · exact first.is_greatest_depth.mono whole (Chain.costs_mono (List.sublist_append_left _ _))
  · exact second.is_greatest_depth.mono whole (Chain.costs_mono (List.sublist_append_right _ _))

theorem depth_compose_le (done : first.compose second = .ok joined) :
    joined.metrics.depth ≤ first.metrics.depth + second.metrics.depth := by
  have reached := joined.is_greatest_depth.1
  rw [two_qubit_compose done] at reached
  obtain ⟨earlier, earlierMember, later, laterMember, equal⟩ :=
    Chain.exists_of_mem_costs_append reached
  rw [equal]
  exact Nat.add_le_add (first.is_greatest_depth.2 earlierMember)
    (second.is_greatest_depth.2 laterMember)

end Compose

/-- The inverse of a circuit has its metrics. Two circuits of one width can be
composed; their counts add up, and the depth of both in a row is at least the
greater and at most the sum of their depths. -/
theorem metrics_of_combinators :
    (∀ circuit : Circuit, circuit.WellFormed → circuit.inverse.metrics = circuit.metrics) ∧
    ∀ first second : Circuit, first.WellFormed → second.WellFormed → first.width = second.width →
      ∃ joined, first.compose second = .ok joined ∧
        joined.twoQubitCount = first.twoQubitCount + second.twoQubitCount ∧
        joined.metrics.count = joined.twoQubitCount ∧
        max first.metrics.depth second.metrics.depth ≤ joined.metrics.depth ∧
        joined.metrics.depth ≤ first.metrics.depth + second.metrics.depth := by
  constructor
  · intro circuit wellFormed
    exact metrics_inverse wellFormed
  · intro first second firstFormed secondFormed same
    have done := compose_eq_ok_iff.2 ⟨same, rfl⟩
    have formed := (well_formed_compose firstFormed secondFormed done).2.2
    refine ⟨_, done, ?_, count_metrics formed, max_depth_le done, depth_compose_le done⟩
    rw [← count_metrics formed, count_compose done, count_metrics firstFormed,
      count_metrics secondFormed]

/-- The depth of both circuits in a row is between five and nine. -/
theorem metrics_of_combinators_swaps :
    let first : Circuit := ⟨4, [⟨.cz, [2, 3]⟩, ⟨.s, [1]⟩, ⟨.cx, [1, 2]⟩, ⟨.swap, [0, 1]⟩]⟩
    let second : Circuit := ⟨4, [⟨.h, [2]⟩, ⟨.swap, [2, 3]⟩, ⟨.cz, [2, 3]⟩]⟩
    first.metrics = ⟨5, 5⟩ ∧ second.metrics = ⟨4, 4⟩ ∧
    first.inverse.metrics = first.metrics ∧
    ∃ joined, first.compose second = .ok joined ∧
      joined.twoQubitCount = first.twoQubitCount + second.twoQubitCount ∧
      max first.metrics.depth second.metrics.depth ≤ joined.metrics.depth ∧
      joined.metrics.depth ≤ first.metrics.depth + second.metrics.depth := by
  intro first second
  have firstFormed : first.WellFormed := List.forall_iff_forall_mem.1 (by decide)
  have secondFormed : second.WellFormed := List.forall_iff_forall_mem.1 (by decide)
  obtain ⟨joined, done, count, -, lower, upper⟩ :=
    metrics_of_combinators.2 first second firstFormed secondFormed rfl
  exact ⟨rfl, rfl, metrics_of_combinators.1 first firstFormed, joined, done, count, lower, upper⟩

end Circuit

end StabilizerPrep
