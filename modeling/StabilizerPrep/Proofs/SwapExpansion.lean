import StabilizerPrep.Proofs.Metrics

/-!
# Swaps as three controlled gates

A swap costs as much as three alternating `cx` and is carried out by them. On
masks the three gates add one bit to another three times, which exchanges the
bits, and their changes of the sign cancel. In a schedule they take one layer
each, one after the other. So replacing every swap of a circuit leaves what is
simulated and what is counted as it was.
-/

namespace StabilizerPrep.Mask

set_option autoImplicit false

def spread (source target mask : Nat) : Nat :=
  toggle (mask.testBit source) target mask

theorem test_bit_spread (source target mask position : Nat) :
    (spread source target mask).testBit position =
      (mask.testBit position != (mask.testBit source && decide (target = position))) :=
  test_bit_toggle _ _ _ _

theorem spread_spread_spread {first second : Nat} (apart : first ≠ second) (mask : Nat) :
    spread first second (spread second first (spread first second mask)) =
      swap first second mask := by
  apply Nat.eq_of_testBit_eq
  intro position
  simp only [test_bit_spread, test_bit_swap, decide_eq_false apart.symm, decide_true, Bool.and_true,
    Bool.and_false, Bool.bne_false]
  by_cases atFirst : position = first
  · subst atFirst
    rw [decide_eq_false apart.symm, decide_eq_true rfl, if_pos rfl]
    cases mask.testBit position <;> cases mask.testBit second <;> rfl
  · by_cases atSecond : position = second
    · subst atSecond
      rw [decide_eq_false apart, decide_eq_true rfl, if_neg atFirst, if_pos rfl]
      cases mask.testBit first <;> cases mask.testBit position <;> rfl
    · rw [decide_eq_false (Ne.symm atFirst), decide_eq_false (Ne.symm atSecond), if_neg atFirst,
        if_neg atSecond]
      simp only [Bool.and_false, Bool.bne_false]

theorem swap_comm (first second mask : Nat) : swap first second mask = swap second first mask := by
  apply Nat.eq_of_testBit_eq
  intro position
  rw [test_bit_swap, test_bit_swap]
  split_ifs with atFirst atSecond <;> simp_all

theorem spread_bits_spread_bits_spread_bits {first second : Nat} (apart : first ≠ second)
    (masks : Nat × Nat) :
    spreadBits first second (spreadBits second first (spreadBits first second masks)) =
      swapBits first second masks := by
  apply Prod.ext
  · exact spread_spread_spread apart masks.1
  · exact (spread_spread_spread apart.symm masks.2).trans (swap_comm second first masks.2)

end StabilizerPrep.Mask

namespace StabilizerPrep.Generator

set_option autoImplicit false

open Mask

/-- Three alternating controlled gates exchange two qubits, signs included. -/
theorem controlled_x_controlled_x_controlled_x {first second : Nat} (apart : first ≠ second)
    (generator : Generator) :
    ((generator.controlledX first second).controlledX second first).controlledX first second =
      generator.exchange first second := by
  apply eq_of_masks
  · exact spread_bits_spread_bits_spread_bits apart (generator.x, generator.z)
  · -- the masks between the gates are decided by the four bits of the two qubits
    simp only [controlledX, exchange, test_bit_toggle, decide_eq_false apart,
      decide_eq_false apart.symm, decide_true, Bool.and_true, Bool.and_false, Bool.bne_false]
    cases generator.negative <;> cases generator.x.testBit first <;>
      cases generator.z.testBit first <;> cases generator.x.testBit second <;>
        cases generator.z.testBit second <;> rfl

end StabilizerPrep.Generator

namespace StabilizerPrep.Schedule

set_option autoImplicit false

def occupy (schedule : Schedule) (first second layers : Nat) : Schedule where
  busy qubit :=
    if qubit = first ∨ qubit = second then schedule.finish first second layers
    else schedule.busy qubit
  depth := max schedule.depth (schedule.finish first second layers)

theorem place_eq_occupy (schedule : Schedule) (gate : Gate) (first second : Nat) :
    schedule.place ⟨gate, [first, second]⟩ = schedule.occupy first second gate.cost :=
  rfl

theorem occupy_comm (schedule : Schedule) (first second layers : Nat) :
    schedule.occupy first second layers = schedule.occupy second first layers := by
  unfold occupy finish
  simp only [or_comm, Nat.max_comm]

theorem finish_occupy (schedule : Schedule) (first second layers more : Nat) :
    (schedule.occupy first second layers).finish first second more =
      schedule.finish first second (layers + more) := by
  have busyFirst : (schedule.occupy first second layers).busy first =
      schedule.finish first second layers := if_pos (.inl rfl)
  have busySecond : (schedule.occupy first second layers).busy second =
      schedule.finish first second layers := if_pos (.inr rfl)
  unfold finish at *
  rw [busyFirst, busySecond, Nat.max_self, Nat.add_assoc]

theorem occupy_occupy (schedule : Schedule) (first second layers more : Nat) :
    (schedule.occupy first second layers).occupy first second more =
      schedule.occupy first second (layers + more) := by
  rw [occupy, finish_occupy]
  apply congrArg₂ Schedule.mk
  · funext qubit
    split
    next => rfl
    next other => exact if_neg other
  · have later : schedule.finish first second layers ≤
        schedule.finish first second (layers + more) := by
      unfold finish
      omega
    change max (max schedule.depth _) _ = max schedule.depth _
    rw [Nat.max_assoc, Nat.max_eq_right later]

end StabilizerPrep.Schedule

namespace StabilizerPrep

set_option autoImplicit false

namespace Instruction

/-- A swap as three alternating `cx`; any other instruction stays as it is. -/
def withoutSwap : Instruction → List Instruction
  | ⟨.swap, [first, second]⟩ =>
      [⟨.cx, [first, second]⟩, ⟨.cx, [second, first]⟩, ⟨.cx, [first, second]⟩]
  | instruction => [instruction]

theorem without_swap_cases {width : Nat} {instruction : Instruction}
    (fits : instruction.checkWithin width = .ok ()) :
    (∃ first < width, ∃ second < width, first ≠ second ∧
      instruction = ⟨.swap, [first, second]⟩) ∨
    (instruction.gate ≠ .swap ∧ instruction.withoutSwap = [instruction]) := by
  obtain ⟨gate, qubits⟩ := instruction
  obtain ⟨qubit, -, rfl, arity⟩ | ⟨first, firstInside, second, secondInside, apart, rfl, -⟩ :=
    cases_of_check_within fits
  · right
    cases gate with
    | swap => cases arity
    | _ => exact ⟨nofun, rfl⟩
  · cases gate with
    | swap => exact .inl ⟨first, firstInside, second, secondInside, apart, rfl⟩
    | _ => exact .inr ⟨nofun, rfl⟩

variable {width : Nat} {instruction : Instruction}

theorem check_within_without_swap (fits : instruction.checkWithin width = .ok ()) :
    ∀ part ∈ instruction.withoutSwap, part.checkWithin width = .ok () ∧ part.gate ≠ .swap := by
  obtain ⟨first, firstInside, second, secondInside, apart, rfl⟩ | ⟨other, same⟩ :=
    without_swap_cases fits
  · have forth : (Instruction.mk .cx [first, second]).checkWithin width = .ok () :=
      check_within_pair firstInside secondInside apart rfl
    have back : (Instruction.mk .cx [second, first]).checkWithin width = .ok () :=
      check_within_pair secondInside firstInside apart.symm rfl
    intro part member
    simp only [withoutSwap, List.mem_cons, List.not_mem_nil, or_false] at member
    rcases member with rfl | rfl | rfl
    · exact ⟨forth, nofun⟩
    · exact ⟨back, nofun⟩
    · exact ⟨forth, nofun⟩
  · intro part member
    rw [same, List.mem_singleton] at member
    subst member
    exact ⟨fits, other⟩

theorem follow_without_swap (fits : instruction.checkWithin width = .ok ())
    (generator : Generator) :
    generator.follow instruction.withoutSwap = generator.conjugate instruction := by
  obtain ⟨first, -, second, -, apart, rfl⟩ | ⟨-, same⟩ := without_swap_cases fits
  · exact Generator.controlled_x_controlled_x_controlled_x apart generator
  · rw [same]
    rfl

theorem run_without_swap (fits : instruction.checkWithin width = .ok ()) (tableau : Tableau) :
    instruction.withoutSwap.foldl Tableau.apply tableau = tableau.apply instruction := by
  refine (Circuit.run_generators instruction.withoutSwap tableau).trans ?_
  unfold Tableau.apply
  congr 1
  apply List.map_congr_left
  intro generator _
  exact follow_without_swap fits generator

theorem place_without_swap (fits : instruction.checkWithin width = .ok ()) (schedule : Schedule) :
    instruction.withoutSwap.foldl Schedule.place schedule = schedule.place instruction := by
  obtain ⟨first, -, second, -, -, rfl⟩ | ⟨-, same⟩ := without_swap_cases fits
  · simp only [withoutSwap, List.foldl_cons, List.foldl_nil, Schedule.place_eq_occupy]
    rw [Schedule.occupy_comm _ second first, Schedule.occupy_occupy, Schedule.occupy_occupy]
    rfl
  · rw [same]
    rfl

theorem native_cost_without_swap (fits : instruction.checkWithin width = .ok ()) :
    Circuit.nativeCost instruction.withoutSwap = instruction.gate.cost := by
  obtain ⟨first, -, second, -, -, rfl⟩ | ⟨-, same⟩ := without_swap_cases fits
  · rfl
  · rw [same, Circuit.native_cost_singleton]

end Instruction

namespace Circuit

def withoutSwaps (circuit : Circuit) : Circuit :=
  ⟨circuit.width, circuit.instructions.flatMap Instruction.withoutSwap⟩

theorem foldl_without_swaps {State : Type} {step : State → Instruction → State} {circuit : Circuit}
    (same : ∀ instruction ∈ circuit.instructions, ∀ state,
      instruction.withoutSwap.foldl step state = step state instruction) (state : State) :
    circuit.withoutSwaps.instructions.foldl step state =
      circuit.instructions.foldl step state := by
  unfold withoutSwaps
  rw [List.foldl_flatMap]
  exact List.foldl_ext _ _ _ fun state instruction member => same instruction member state

variable {circuit : Circuit}

theorem well_formed_without_swaps (wellFormed : circuit.WellFormed) :
    circuit.withoutSwaps.WellFormed := by
  intro part member
  obtain ⟨instruction, listed, taken⟩ := List.mem_flatMap.1 member
  exact (Instruction.check_within_without_swap (wellFormed instruction listed) part taken).1

theorem gate_without_swaps (wellFormed : circuit.WellFormed) :
    ∀ part ∈ circuit.withoutSwaps.instructions, part.gate ≠ .swap := by
  intro part member
  obtain ⟨instruction, listed, taken⟩ := List.mem_flatMap.1 member
  exact (Instruction.check_within_without_swap (wellFormed instruction listed) part taken).2

theorem run_without_swaps (wellFormed : circuit.WellFormed) (tableau : Tableau) :
    tableau.run circuit.withoutSwaps.instructions = tableau.run circuit.instructions :=
  foldl_without_swaps (fun instruction member =>
    Instruction.run_without_swap (wellFormed instruction member)) tableau

theorem two_qubit_count_without_swaps (wellFormed : circuit.WellFormed) :
    circuit.withoutSwaps.twoQubitCount = circuit.twoQubitCount := by
  unfold twoQubitCount withoutSwaps
  rw [List.map_flatMap, List.flatMap_def, List.sum_flatten, List.map_map]
  apply congrArg List.sum
  apply List.map_congr_left
  intro instruction member
  exact Instruction.native_cost_without_swap (wellFormed instruction member)

theorem two_qubit_depth_without_swaps (wellFormed : circuit.WellFormed) :
    circuit.withoutSwaps.twoQubitDepth = circuit.twoQubitDepth :=
  congrArg Schedule.depth (foldl_without_swaps (fun instruction member =>
    Instruction.place_without_swap (wellFormed instruction member)) .start)

theorem metrics_without_swaps (wellFormed : circuit.WellFormed) :
    circuit.withoutSwaps.metrics = circuit.metrics := by
  have count : circuit.withoutSwaps.metrics.count = circuit.metrics.count := by
    rw [count_metrics (well_formed_without_swaps wellFormed), count_metrics wellFormed,
      two_qubit_count_without_swaps wellFormed]
  exact congrArg₂ Metrics.mk count (two_qubit_depth_without_swaps wellFormed)

/-- Counting a swap as three gates is faithful. With every swap carried out by
three `cx`, a circuit on up to 64 qubits still fits, has the same tableau with
the same signs, and has the same count and depth. -/
theorem swaps_as_three_gates (wellFormed : circuit.WellFormed) (small : circuit.width ≤ 64) :
    circuit.withoutSwaps.WellFormed ∧
    (∀ instruction ∈ circuit.withoutSwaps.instructions, instruction.gate ≠ .swap) ∧
    (∃ tableau, Tableau.ofCircuit circuit = .ok tableau ∧
      Tableau.ofCircuit circuit.withoutSwaps = .ok tableau) ∧
    circuit.withoutSwaps.metrics = circuit.metrics := by
  have size : circuit.withoutSwaps.width ≤ Pauli.maxQubits := small
  have simulated : Tableau.ofCircuit circuit.withoutSwaps =
      .ok ((Tableau.start circuit.width).run circuit.instructions) := by
    rw [simulate_eq_run size, run_without_swaps wellFormed]
    rfl
  exact ⟨well_formed_without_swaps wellFormed, gate_without_swaps wellFormed,
    ⟨_, simulate_eq_run small, simulated⟩, metrics_without_swaps wellFormed⟩

/-- Two swaps, one of them between qubits with entangled and signed images. -/
theorem swaps_as_three_gates_path :
    let circuit : Circuit := ⟨3, [⟨.h, [0]⟩, ⟨.cx, [0, 1]⟩, ⟨.y, [1]⟩, ⟨.swap, [1, 2]⟩, ⟨.s, [2]⟩,
      ⟨.swap, [2, 0]⟩]⟩
    circuit.withoutSwaps = ⟨3, [⟨.h, [0]⟩, ⟨.cx, [0, 1]⟩, ⟨.y, [1]⟩,
      ⟨.cx, [1, 2]⟩, ⟨.cx, [2, 1]⟩, ⟨.cx, [1, 2]⟩, ⟨.s, [2]⟩,
      ⟨.cx, [2, 0]⟩, ⟨.cx, [0, 2]⟩, ⟨.cx, [2, 0]⟩]⟩ ∧
    (∃ tableau, Tableau.ofCircuit circuit = .ok tableau ∧
      Tableau.ofCircuit circuit.withoutSwaps = .ok tableau) ∧
    circuit.withoutSwaps.metrics = circuit.metrics :=
  ⟨rfl, (swaps_as_three_gates (List.forall_iff_forall_mem.1 (by decide)) (by decide)).2.2⟩

end Circuit

end StabilizerPrep
