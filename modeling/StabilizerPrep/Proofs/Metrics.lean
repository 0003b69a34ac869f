import StabilizerPrep.Circuit.Metrics
import StabilizerPrep.Proofs.Simulation

/-!
# Two-qubit instructions

The two-qubit count and depth of a circuit only depend on its instructions on
two qubits, in time order: gates on one qubit cost nothing and take no layer.
The inverse of a circuit has the same instructions on two qubits in reverse
order.
-/

namespace StabilizerPrep.Schedule

set_option autoImplicit false

/-- The last layer of two qubits that are busy together for some layers, as soon
as both are free. -/
def finish (schedule : Schedule) (first second layers : Nat) : Nat :=
  max (schedule.busy first) (schedule.busy second) + layers

end StabilizerPrep.Schedule

namespace StabilizerPrep.Circuit

set_option autoImplicit false

def twoQubit (circuit : Circuit) : List Instruction :=
  circuit.instructions.filter Instruction.isTwoQubit

theorem place_of_not_is_two_qubit {instruction : Instruction}
    (other : instruction.isTwoQubit = false) (schedule : Schedule) :
    schedule.place instruction = schedule := by
  obtain ⟨gate, qubits⟩ := instruction
  match qubits with
  | [] | [_] | _ :: _ :: _ :: _ => rfl
  | [_, _] => cases other

/-- Only instructions on two qubits take layers. -/
theorem foldl_place_filter (instructions : List Instruction) (schedule : Schedule) :
    instructions.foldl Schedule.place schedule =
      (instructions.filter Instruction.isTwoQubit).foldl Schedule.place schedule := by
  induction instructions generalizing schedule with
  | nil => rfl
  | cons instruction instructions ih =>
      cases two : instruction.isTwoQubit
      · rw [List.filter_cons_of_neg (by rw [two]; decide), List.foldl_cons,
          place_of_not_is_two_qubit two, ih]
      · rw [List.filter_cons_of_pos two, List.foldl_cons, List.foldl_cons, ih]

theorem two_qubit_depth_eq (circuit : Circuit) :
    circuit.twoQubitDepth = (circuit.twoQubit.foldl Schedule.place .start).depth := by
  rw [twoQubitDepth, foldl_place_filter]
  rfl

theorem cost_of_check_within {width : Nat} {instruction : Instruction}
    (fits : instruction.checkWithin width = .ok ()) (other : instruction.isTwoQubit = false) :
    instruction.gate.cost = 0 := by
  obtain ⟨gate, qubits⟩ := instruction
  obtain ⟨qubit, -, rfl, arity⟩ | ⟨first, -, second, -, -, rfl, -⟩ :=
    Instruction.cases_of_check_within fits
  · cases gate <;> first | rfl | cases arity
  · cases other

theorem two_qubit_count_eq {circuit : Circuit} (wellFormed : circuit.WellFormed) :
    circuit.twoQubitCount =
      (circuit.twoQubit.map fun instruction => instruction.gate.cost).sum := by
  obtain ⟨width, instructions⟩ := circuit
  rw [twoQubitCount, twoQubit]
  induction instructions with
  | nil => rfl
  | cons instruction instructions ih =>
      have rest := ih fun later member => wellFormed later (List.mem_cons_of_mem _ member)
      simp only at rest ⊢
      rw [List.map_cons, List.sum_cons, rest]
      cases two : instruction.isTwoQubit
      · rw [cost_of_check_within (wellFormed instruction List.mem_cons_self) two, Nat.zero_add,
          List.filter_cons_of_neg (by rw [two]; decide)]
      · rw [List.filter_cons_of_pos two, List.map_cons, List.sum_cons]

def nativeCost (instructions : List Instruction) : Nat :=
  (instructions.map fun instruction => instruction.gate.cost).sum

theorem native_cost_append (first second : List Instruction) :
    nativeCost (first ++ second) = nativeCost first + nativeCost second := by
  unfold nativeCost
  rw [List.map_append, List.sum_append]

theorem native_cost_singleton (instruction : Instruction) :
    nativeCost [instruction] = instruction.gate.cost :=
  Nat.add_zero _

theorem native_cost_reverse (instructions : List Instruction) :
    nativeCost instructions.reverse = nativeCost instructions := by
  induction instructions with
  | nil => rfl
  | cons instruction instructions ih =>
      rw [List.reverse_cons, native_cost_append, ih, native_cost_singleton, Nat.add_comm]
      rfl

theorem metrics_eq (circuit : Circuit) :
    circuit.metrics =
      ⟨nativeCost circuit.twoQubit, (circuit.twoQubit.foldl Schedule.place .start).depth⟩ :=
  congrArg (Metrics.mk _) circuit.two_qubit_depth_eq

theorem metrics_congr {first second : Circuit} (same : first.twoQubit = second.twoQubit) :
    first.metrics = second.metrics := by
  rw [metrics_eq, metrics_eq, same]

theorem count_metrics {circuit : Circuit} (wellFormed : circuit.WellFormed) :
    circuit.metrics.count = circuit.twoQubitCount :=
  (two_qubit_count_eq wellFormed).symm

theorem inverse_of_is_two_qubit {width : Nat} {instruction : Instruction}
    (fits : instruction.checkWithin width = .ok ()) (two : instruction.isTwoQubit = true) :
    instruction.inverse = instruction := by
  obtain ⟨gate, qubits⟩ := instruction
  obtain ⟨qubit, -, rfl, -⟩ | ⟨first, -, second, -, -, rfl, arity⟩ :=
    Instruction.cases_of_check_within fits
  · cases two
  · cases gate <;> first | rfl | cases arity

/-- The inverse of a circuit has the same instructions on two qubits, in reverse
order. -/
theorem two_qubit_inverse {circuit : Circuit} (wellFormed : circuit.WellFormed) :
    circuit.inverse.twoQubit = circuit.twoQubit.reverse := by
  have same : circuit.twoQubit.map Instruction.inverse = circuit.twoQubit := by
    conv_rhs => rw [← List.map_id circuit.twoQubit]
    apply List.map_congr_left
    intro instruction member
    obtain ⟨listed, two⟩ := List.mem_filter.1 member
    exact inverse_of_is_two_qubit (wellFormed instruction listed) two
  unfold twoQubit at same ⊢
  unfold inverse
  rw [List.filter_reverse, List.filter_map]
  exact congrArg List.reverse same

end StabilizerPrep.Circuit
