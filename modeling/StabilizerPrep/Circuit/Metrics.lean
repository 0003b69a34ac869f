import StabilizerPrep.Circuit.Basic
import StabilizerPrep.Arithmetic

/-!
# Two-qubit cost of a circuit

The count is the number of native two-qubit gates. For the depth, every
two-qubit instruction is scheduled as soon as both of its qubits are free and
then occupies as many layers as it costs.
-/

namespace StabilizerPrep

set_option autoImplicit false

structure Metrics where
  count : Nat
  depth : Nat
  deriving DecidableEq, Repr

/-- The progress of a schedule: the layer up to which each qubit is busy, and
the highest layer in use. -/
structure Schedule where
  busy : Nat → Nat
  depth : Nat

namespace Schedule

def start : Schedule :=
  ⟨fun _ => 0, 0⟩

/-- Schedules one instruction. Instructions that do not act on two qubits take
no layer. -/
def place (schedule : Schedule) (instruction : Instruction) : Schedule :=
  match instruction.qubits with
  | [first, second] =>
      let layer :=
        max (schedule.busy first) (schedule.busy second) + instruction.gate.cost
      { busy := fun qubit =>
          if qubit = first ∨ qubit = second then layer else schedule.busy qubit
        depth := max schedule.depth layer }
  | _ => schedule

end Schedule

namespace Circuit

def twoQubitCount (circuit : Circuit) : Nat :=
  (circuit.instructions.map fun instruction => instruction.gate.cost).sum

def twoQubitDepth (circuit : Circuit) : Nat :=
  (circuit.instructions.foldl Schedule.place .start).depth

def metrics (circuit : Circuit) : Metrics :=
  { count := ((circuit.instructions.filter Instruction.isTwoQubit).map
      fun instruction => instruction.gate.cost).sum
    depth := circuit.twoQubitDepth }

end Circuit

end StabilizerPrep
