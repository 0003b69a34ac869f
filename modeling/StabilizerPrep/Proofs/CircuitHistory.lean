import StabilizerPrep.Proofs.LayerCircuit
import StabilizerPrep.Proofs.SpecGrammar

/-!
# Circuits under construction

A circuit starts out empty, from a text or from a list of instructions, and is
then changed by operations, which fail exactly when they do not fit. Whatever
the operations are and in whatever order they come, every instruction fits the
width, and the circuit is read back from its text.
-/

namespace StabilizerPrep.Instruction

set_option autoImplicit false

/-- As many operands as the gate takes, no two of them the same, and all of them
below the width. -/
structure Fits (width : Nat) (instruction : Instruction) : Prop where
  count : instruction.qubits.length = instruction.gate.arity
  distinct : instruction.qubits.Nodup
  inside : ∀ qubit ∈ instruction.qubits, qubit < width

theorem check_within_eq_ok_iff (width : Nat) (instruction : Instruction) :
    instruction.checkWithin width = .ok () ↔ instruction.Fits width := by
  constructor
  · intro accepted
    obtain ⟨count, distinct⟩ := (Spec.check_eq_ok_iff instruction).1
      (Circuit.check_of_check_within accepted)
    exact ⟨count, distinct, Circuit.lt_of_check_within accepted⟩
  · rintro ⟨count, distinct, inside⟩
    have none : instruction.qubits.find? (fun qubit => width ≤ qubit) = none := by
      rw [List.find?_eq_none]
      intro qubit member
      simpa using inside qubit member
    rw [checkWithin, (Spec.check_eq_ok_iff instruction).2 ⟨count, distinct⟩, none]
    rfl

end StabilizerPrep.Instruction

namespace StabilizerPrep.Circuit

set_option autoImplicit false

inductive Origin where
  | empty
  | parse (spec : String)
  | ofInstructions (instructions : List Instruction)

def Origin.circuit (width : Nat) : Origin → Except CircuitFault Circuit
  | .empty => .ok (.empty width)
  | .parse spec => Circuit.parse width spec
  | .ofInstructions instructions => Circuit.ofInstructions width instructions

inductive Operation where
  | push (instruction : Instruction)
  | apply (gate : Gate) (qubits : List Nat)
  | compose (later : Circuit)
  | prepend (earlier : Circuit)
  | inverse

namespace Operation

def outcome (circuit : Circuit) : Operation → Except CircuitFault Circuit
  | .push instruction => circuit.push instruction
  | .apply gate qubits => circuit.apply gate qubits
  | .compose later => circuit.compose later
  | .prepend earlier => circuit.prepend earlier
  | .inverse => .ok circuit.inverse

def Fits (width : Nat) : Operation → Prop
  | .push instruction => instruction.Fits width
  | .apply gate qubits => Instruction.Fits width ⟨gate, qubits⟩
  | .compose other => other.width = width
  | .prepend other => other.width = width
  | .inverse => True

def arguments : Operation → List Circuit
  | .compose later => [later]
  | .prepend earlier => [earlier]
  | _ => []

end Operation

/-- The circuit after an operation. One that fails changes nothing. -/
def after (circuit : Circuit) (operation : Operation) : Circuit :=
  match operation.outcome circuit with
  | .ok changed => changed
  | .error _ => circuit

def run (circuit : Circuit) (operations : List Operation) : Circuit :=
  operations.foldl after circuit

/-- The circuits that come out of operations. Those that an operation takes come
out of operations themselves, and may have any width. -/
inductive Built : Circuit → Prop where
  | start (width : UInt32) (origin : Origin) {circuit : Circuit} :
      origin.circuit width.toNat = .ok circuit → Built circuit
  | step {circuit : Circuit} (operation : Operation) :
      Built circuit → (∀ argument ∈ operation.arguments, Built argument) →
        Built (circuit.after operation)

variable {circuit : Circuit} {operation : Operation}

theorem after_of_error {fault : CircuitFault} (failed : operation.outcome circuit = .error fault) :
    circuit.after operation = circuit := by
  rw [after, failed]

theorem after_of_ok {changed : Circuit} (done : operation.outcome circuit = .ok changed) :
    circuit.after operation = changed := by
  rw [after, done]

theorem push_eq_ok_iff {instruction : Instruction} {changed : Circuit} :
    circuit.push instruction = .ok changed ↔
      instruction.Fits circuit.width ∧
        changed = ⟨circuit.width, circuit.instructions ++ [instruction]⟩ := by
  constructor
  · intro done
    obtain ⟨⟨⟩, accepted, same⟩ := exists_of_bind_ok done
    exact ⟨(Instruction.check_within_eq_ok_iff _ _).1 accepted, (Except.ok.inj same).symm⟩
  · rintro ⟨fits, rfl⟩
    rw [push, (Instruction.check_within_eq_ok_iff _ _).2 fits]
    rfl

theorem compose_eq_ok_iff {first second joined : Circuit} :
    first.compose second = .ok joined ↔
      first.width = second.width ∧
        joined = ⟨first.width, first.instructions ++ second.instructions⟩ := by
  rw [compose]
  split
  next same => simp [same, eq_comm]
  next different => simp [different]

theorem Operation.exists_outcome_iff :
    (∃ changed, operation.outcome circuit = .ok changed) ↔ operation.Fits circuit.width := by
  have pushes : ∀ instruction : Instruction,
      (∃ changed, circuit.push instruction = .ok changed) ↔ instruction.Fits circuit.width := by
    intro instruction
    constructor
    · rintro ⟨changed, done⟩
      exact (push_eq_ok_iff.1 done).1
    · exact fun fits => ⟨_, push_eq_ok_iff.2 ⟨fits, rfl⟩⟩
  cases operation with
  | push instruction => exact pushes instruction
  | apply gate qubits => exact pushes ⟨gate, qubits⟩
  | compose later =>
      constructor
      · rintro ⟨changed, done⟩
        exact (compose_eq_ok_iff.1 done).1.symm
      · exact fun same => ⟨_, compose_eq_ok_iff.2 ⟨same.symm, rfl⟩⟩
  | prepend earlier =>
      constructor
      · rintro ⟨changed, done⟩
        exact (compose_eq_ok_iff.1 done).1
      · exact fun same => ⟨_, compose_eq_ok_iff.2 ⟨same, rfl⟩⟩
  | inverse => exact ⟨fun _ => trivial, fun _ => ⟨_, rfl⟩⟩

theorem outcome_after (circuit : Circuit) (operation : Operation) :
    (operation.Fits circuit.width →
      operation.outcome circuit = .ok (circuit.after operation)) ∧
    (¬operation.Fits circuit.width →
      (∃ fault, operation.outcome circuit = .error fault) ∧
        circuit.after operation = circuit) := by
  rw [← Operation.exists_outcome_iff]
  cases outcome : operation.outcome circuit with
  | error fault =>
      refine ⟨?_, fun _ => ⟨⟨fault, rfl⟩, after_of_error outcome⟩⟩
      rintro ⟨changed, impossible⟩
      cases impossible
  | ok changed =>
      refine ⟨fun _ => by rw [after_of_ok outcome], ?_⟩
      intro failed
      exact absurd ⟨changed, rfl⟩ failed

theorem foldlM_push (width : Nat) (taken instructions : List Instruction) :
    instructions.foldlM push ⟨width, taken⟩ = (do
      instructions.forM (Instruction.checkWithin width)
      .ok ⟨width, taken ++ instructions⟩) := by
  induction instructions generalizing taken with
  | nil =>
      rw [List.append_nil]
      rfl
  | cons first rest ih =>
      rw [List.foldlM_cons, push]
      change _ = (first.checkWithin width >>= fun _ =>
        rest.forM (Instruction.checkWithin width)) >>= _
      cases first.checkWithin width with
      | error fault => rfl
      | ok =>
          have later := ih (taken ++ [first])
          rw [List.append_assoc] at later
          exact later

theorem of_instructions_eq_foldlM (width : Nat) (instructions : List Instruction) :
    ofInstructions width instructions = instructions.foldlM push (empty width) :=
  (foldlM_push width [] instructions).symm

theorem well_formed_push {instruction : Instruction} {changed : Circuit}
    (wellFormed : circuit.WellFormed) (done : circuit.push instruction = .ok changed) :
    changed.width = circuit.width ∧ changed.WellFormed := by
  obtain ⟨fits, rfl⟩ := push_eq_ok_iff.1 done
  refine ⟨rfl, well_formed_append wellFormed ?_⟩
  intro other member
  rw [List.mem_singleton.1 member]
  exact (Instruction.check_within_eq_ok_iff _ _).2 fits

theorem well_formed_foldlM_push {instructions : List Instruction} {built : Circuit}
    (wellFormed : circuit.WellFormed) (done : instructions.foldlM push circuit = .ok built) :
    built.width = circuit.width ∧ built.WellFormed := by
  induction instructions generalizing circuit with
  | nil =>
      obtain rfl := Except.ok.inj done
      exact ⟨rfl, wellFormed⟩
  | cons first rest ih =>
      rw [List.foldlM_cons] at done
      obtain ⟨next, pushed, later⟩ := exists_of_bind_ok done
      obtain ⟨width, formed⟩ := well_formed_push wellFormed pushed
      obtain ⟨same, finished⟩ := ih formed later
      exact ⟨same.trans width, finished⟩

theorem well_formed_of_instructions {width : Nat} {instructions : List Instruction}
    {built : Circuit}
    (done : ofInstructions width instructions = .ok built) :
    built.width = width ∧ built.WellFormed := by
  rw [of_instructions_eq_foldlM] at done
  exact well_formed_foldlM_push (fun _ member => (List.not_mem_nil member).elim) done

theorem well_formed_origin {width : Nat} {origin : Origin} {start : Circuit}
    (started : origin.circuit width = .ok start) : start.width = width ∧ start.WellFormed := by
  cases origin with
  | empty =>
      obtain rfl := Except.ok.inj started
      exact ⟨rfl, fun _ member => (List.not_mem_nil member).elim⟩
  | parse spec =>
      obtain ⟨instructions, _, listed⟩ := exists_of_bind_ok started
      exact well_formed_of_instructions listed
  | ofInstructions instructions => exact well_formed_of_instructions started

theorem well_formed_compose {first second joined : Circuit} (firstFormed : first.WellFormed)
    (secondFormed : second.WellFormed) (done : first.compose second = .ok joined) :
    joined.width = first.width ∧ joined.width = second.width ∧ joined.WellFormed := by
  obtain ⟨same, rfl⟩ := compose_eq_ok_iff.1 done
  refine ⟨rfl, same, well_formed_append firstFormed ?_⟩
  rw [same]
  exact secondFormed

theorem well_formed_after (wellFormed : circuit.WellFormed)
    (arguments : ∀ argument ∈ operation.arguments, argument.WellFormed) :
    (circuit.after operation).width = circuit.width ∧ (circuit.after operation).WellFormed := by
  cases outcome : operation.outcome circuit with
  | error fault =>
      rw [after_of_error outcome]
      exact ⟨rfl, wellFormed⟩
  | ok changed =>
      rw [after_of_ok outcome]
      cases operation with
      | push instruction => exact well_formed_push wellFormed outcome
      | apply gate qubits => exact well_formed_push wellFormed outcome
      | compose later =>
          have joined := well_formed_compose wellFormed (arguments later List.mem_cons_self) outcome
          exact ⟨joined.1, joined.2.2⟩
      | prepend earlier =>
          exact (well_formed_compose (arguments earlier List.mem_cons_self) wellFormed outcome).2
      | inverse =>
          obtain rfl := Except.ok.inj outcome
          exact ⟨rfl, well_formed_inverse wellFormed⟩

theorem Built.well_formed (built : Built circuit) : circuit.WellFormed := by
  induction built with
  | start width origin started => exact (well_formed_origin started).2
  | step operation _ _ formed arguments => exact (well_formed_after formed arguments).2

theorem well_formed_run (wellFormed : circuit.WellFormed) {operations : List Operation}
    (arguments : ∀ operation ∈ operations, ∀ argument ∈ operation.arguments, Built argument) :
    (circuit.run operations).width = circuit.width ∧ (circuit.run operations).WellFormed := by
  induction operations generalizing circuit with
  | nil => exact ⟨rfl, wellFormed⟩
  | cons operation operations ih =>
      obtain ⟨width, formed⟩ := well_formed_after wellFormed fun argument member =>
        (arguments operation List.mem_cons_self argument member).well_formed
      obtain ⟨same, finished⟩ := ih formed fun other member =>
        arguments other (List.mem_cons_of_mem _ member)
      exact ⟨same.trans width, finished⟩

/-- A circuit starts out at some width and goes through some operations. Each of
them gives the next circuit if it fits, and otherwise fails and leaves the
circuit as it was. At the end every instruction fits the width, and the circuit
is read back from its text. -/
theorem construction_readable (width : UInt32) {origin : Origin} {start : Circuit}
    (started : origin.circuit width.toNat = .ok start) {operations : List Operation}
    (arguments : ∀ operation ∈ operations, ∀ argument ∈ operation.arguments, Built argument) :
    (∀ earlier operation later, operations = earlier ++ operation :: later →
      (operation.Fits width.toNat →
        operation.outcome (start.run earlier) = .ok (start.run (earlier ++ [operation]))) ∧
      (¬operation.Fits width.toNat →
        (∃ fault, operation.outcome (start.run earlier) = .error fault) ∧
          start.run (earlier ++ [operation]) = start.run earlier)) ∧
    (∀ instruction ∈ (start.run operations).instructions,
      instruction.checkWithin width.toNat = .ok () ∧ instruction.Fits width.toNat) ∧
    Circuit.parse width.toNat (start.run operations).spec = .ok (start.run operations) := by
  obtain ⟨own, formed⟩ := well_formed_origin started
  have kept : (start.run operations).width = width.toNat ∧ (start.run operations).WellFormed := by
    rw [← own]
    exact well_formed_run formed arguments
  obtain ⟨same, finished⟩ := kept
  refine ⟨?_, ?_, ?_⟩
  · rintro earlier operation later rfl
    have before := (well_formed_run formed fun other member =>
      arguments other (List.mem_append_left _ member)).1
    have next : start.run (earlier ++ [operation]) = (start.run earlier).after operation := by
      rw [run, List.foldl_append]
      rfl
    rw [next, ← own, ← before]
    exact outcome_after (start.run earlier) operation
  · rw [← same]
    intro instruction member
    have accepted := finished instruction member
    exact ⟨accepted, (Instruction.check_within_eq_ok_iff _ _).1 accepted⟩
  · have small : (start.run operations).width ≤ Spec.indexBound := by
      rw [same]
      exact Nat.le_of_lt width.toNat_lt
    have again := read_write finished small
    rw [same] at again
    rwa [Circuit.parse, spec, Spec.render, String.toList_ofList]

/-- Two of these operations fail: one has the same operand twice, the other
takes a narrower circuit. -/
theorem construction_readable_refused :
    let start : Circuit := ⟨3, [⟨.h, [0]⟩, ⟨.cx, [0, 1]⟩]⟩
    let operations : List Operation := [.push ⟨.cz, [2, 2]⟩, .apply .swap [1, 2],
      .compose (.empty 2), .prepend ⟨3, [⟨.s, [2]⟩]⟩, .inverse]
    (Origin.parse "h0  cx0,1").circuit (3 : UInt32).toNat = .ok start ∧
    start.run operations = ⟨3, [⟨.swap, [1, 2]⟩, ⟨.cx, [0, 1]⟩, ⟨.h, [0]⟩, ⟨.sdg, [2]⟩]⟩ ∧
    start.run [.push ⟨.cz, [2, 2]⟩] = start ∧
    Circuit.parse (3 : UInt32).toNat (start.run operations).spec =
      .ok (start.run operations) := by
  intro start operations
  have started : (Origin.parse "h0  cx0,1").circuit (3 : UInt32).toNat = .ok start := rfl
  have arguments : ∀ operation ∈ operations, ∀ argument ∈ operation.arguments,
      Built argument := by
    intro operation member argument listed
    simp only [operations, List.mem_cons, List.not_mem_nil, or_false] at member
    rcases member with rfl | rfl | rfl | rfl | rfl
    · cases listed
    · cases listed
    · obtain rfl := List.mem_singleton.1 listed
      exact .start 2 .empty rfl
    · obtain rfl := List.mem_singleton.1 listed
      exact .start 3 (.parse "s2") rfl
    · cases listed
  obtain ⟨steps, _, again⟩ := construction_readable 3 started arguments
  have refused : ¬Operation.Fits (3 : UInt32).toNat (.push ⟨.cz, [2, 2]⟩) :=
    fun fits => absurd fits.distinct (by decide)
  exact ⟨started, rfl, ((steps [] _ _ rfl).2 refused).2, again⟩

end StabilizerPrep.Circuit
