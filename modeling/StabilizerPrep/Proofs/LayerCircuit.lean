import StabilizerPrep.Proofs.LayerAction
import StabilizerPrep.Proofs.Simulation

/-!
# Layers as circuits

An instruction is undone by its inverse, so a circuit followed by its inverse
moves no operator. A gate on one qubit changes the two bits of that qubit only,
and the circuit of a layer moves operators as the layer acts on them.
-/

namespace StabilizerPrep.Mask

set_option autoImplicit false

theorem swap_swap (first second mask : Nat) :
    swap first second (swap first second mask) = mask := by
  apply Nat.eq_of_testBit_eq
  intro position
  simp only [test_bit_swap]
  split_ifs with isFirst isSecond equal <;> simp_all

theorem toggle_toggle (condition : Bool) (position mask : Nat) :
    toggle condition position (toggle condition position mask) = mask := by
  cases condition
  · rfl
  · simp [toggle]

theorem exchange_bits_exchange_bits (qubit : Nat) (masks : Nat × Nat) :
    exchangeBits qubit (exchangeBits qubit masks) = masks := by
  have differ : ∀ first second : Bool,
      ((first != (first != second)) != (second != (first != second))) = (first != second) := by
    decide
  simp only [exchangeBits, test_bit_toggle, decide_true, Bool.and_true, differ, toggle_toggle]

theorem shear_bits_shear_bits (qubit : Nat) (masks : Nat × Nat) :
    shearBits qubit (shearBits qubit masks) = masks := by
  simp only [shearBits, toggle_toggle]

theorem spread_bits_spread_bits {control target : Nat} (apart : control ≠ target)
    (masks : Nat × Nat) : spreadBits control target (spreadBits control target masks) = masks := by
  simp only [spreadBits, test_bit_toggle, decide_eq_false apart, decide_eq_false apart.symm,
    Bool.and_false, Bool.bne_false, toggle_toggle]

theorem swap_bits_swap_bits (first second : Nat) (masks : Nat × Nat) :
    swapBits first second (swapBits first second masks) = masks := by
  simp only [swapBits, swap_swap]

def bitsAt (masks : Nat × Nat) (qubit : Nat) : Bool × Bool :=
  (masks.1.testBit qubit, masks.2.testBit qubit)

theorem eq_of_bits_at {first second : Nat × Nat}
    (same : ∀ qubit, bitsAt first qubit = bitsAt second qubit) : first = second := by
  apply Prod.ext
  · exact Nat.eq_of_testBit_eq fun qubit => (Prod.mk.inj (same qubit)).1
  · exact Nat.eq_of_testBit_eq fun qubit => (Prod.mk.inj (same qubit)).2

end StabilizerPrep.Mask

namespace StabilizerPrep.Instruction

set_option autoImplicit false

open Mask

theorem move_inverse {width : Nat} {instruction : Instruction}
    (fits : instruction.checkWithin width = .ok ()) (masks : Nat × Nat) :
    instruction.inverse.move (instruction.move masks) = masks := by
  obtain ⟨gate, qubits⟩ := instruction
  obtain ⟨qubit, -, rfl, arity⟩ | ⟨first, -, second, -, apart, rfl, arity⟩ :=
    cases_of_check_within fits
  · cases gate with
    | h => exact exchange_bits_exchange_bits qubit masks
    | s => exact shear_bits_shear_bits qubit masks
    | sdg => exact shear_bits_shear_bits qubit masks
    | x => rfl
    | y => rfl
    | z => rfl
    | cx => cases arity
    | cz => cases arity
    | swap => cases arity
  · cases gate with
    | h => cases arity
    | s => cases arity
    | sdg => cases arity
    | x => cases arity
    | y => cases arity
    | z => cases arity
    | cx => exact spread_bits_spread_bits apart masks
    | cz =>
        change exchangeBits second (spreadBits first second (exchangeBits second
          (exchangeBits second (spreadBits first second (exchangeBits second masks))))) = masks
        rw [exchange_bits_exchange_bits, spread_bits_spread_bits apart, exchange_bits_exchange_bits]
    | swap => exact swap_bits_swap_bits first second masks

def turn (gate : Gate) (bits : Bool × Bool) : Bool × Bool :=
  match gate with
  | .h => (bits.2, bits.1)
  | .s | .sdg => (bits.1, bits.2 != bits.1)
  | _ => bits

theorem bits_at_move {gate : Gate} (arity : gate.arity = 1) (qubit : Nat) (masks : Nat × Nat)
    (other : Nat) :
    bitsAt ((Instruction.mk gate [qubit]).move masks) other =
      if qubit = other then turn gate (bitsAt masks other) else bitsAt masks other := by
  have exchanged : bitsAt (exchangeBits qubit masks) other =
      if qubit = other then turn .h (bitsAt masks other) else bitsAt masks other := by
    simp only [bitsAt, exchangeBits, test_bit_toggle, turn]
    by_cases own : qubit = other
    · subst own
      cases masks.1.testBit qubit <;> cases masks.2.testBit qubit <;> simp
    · simp [own]
  have sheared : bitsAt (shearBits qubit masks) other =
      if qubit = other then turn .s (bitsAt masks other) else bitsAt masks other := by
    simp only [bitsAt, shearBits, test_bit_toggle, turn]
    by_cases own : qubit = other
    · simp [own]
    · simp [own]
  cases gate with
  | h => exact exchanged
  | s => exact sheared
  | sdg => exact sheared
  | x => exact (ite_self _).symm
  | y => exact (ite_self _).symm
  | z => exact (ite_self _).symm
  | cx => cases arity
  | cz => cases arity
  | swap => cases arity

theorem bits_at_move_all {gates : List Gate} (arity : ∀ gate ∈ gates, gate.arity = 1) (qubit : Nat)
    (masks : Nat × Nat) (other : Nat) :
    bitsAt (moveAll (gates.map fun gate => ⟨gate, [qubit]⟩) masks) other =
      if qubit = other then gates.foldl (fun bits gate => turn gate bits) (bitsAt masks other)
      else bitsAt masks other := by
  induction gates generalizing masks with
  | nil => exact (ite_self _).symm
  | cons gate gates ih =>
      have rest := ih (fun later member => arity later (List.mem_cons_of_mem _ member))
        ((Instruction.mk gate [qubit]).move masks)
      rw [bits_at_move (arity gate List.mem_cons_self)] at rest
      refine rest.trans ?_
      by_cases own : qubit = other
      · simp only [if_pos own, List.foldl_cons]
      · simp only [if_neg own]

end StabilizerPrep.Instruction

namespace StabilizerPrep.Circuit

set_option autoImplicit false

open Mask Instruction

theorem well_formed_inverse {circuit : Circuit} (wellFormed : circuit.WellFormed) :
    circuit.inverse.WellFormed := by
  intro instruction member
  obtain ⟨original, originalMember, rfl⟩ := List.mem_map.1 (List.mem_reverse.1 member)
  exact Instruction.check_within_inverse (wellFormed original originalMember)

theorem well_formed_append {width : Nat} {first second : List Instruction}
    (firstFormed : (Circuit.mk width first).WellFormed)
    (secondFormed : (Circuit.mk width second).WellFormed) :
    (Circuit.mk width (first ++ second)).WellFormed := by
  intro instruction member
  rcases List.mem_append.1 member with front | back
  · exact firstFormed instruction front
  · exact secondFormed instruction back

/-- If every instruction of a circuit is undone by its inverse, then so is the
circuit, whatever the instructions act on. -/
theorem foldl_inverse {State : Type} {step : State → Instruction → State} {circuit : Circuit}
    (undone : ∀ instruction ∈ circuit.instructions, ∀ state,
      step (step state instruction) instruction.inverse = state) (state : State) :
    circuit.inverse.instructions.foldl step (circuit.instructions.foldl step state) = state := by
  obtain ⟨width, instructions⟩ := circuit
  simp only [inverse] at undone ⊢
  induction instructions generalizing state with
  | nil => rfl
  | cons instruction instructions ih =>
      have rest := ih (step state instruction) fun later member =>
        undone later (List.mem_cons_of_mem _ member)
      rw [List.foldl_cons, List.map_cons, List.reverse_cons, List.foldl_append, rest]
      exact undone instruction List.mem_cons_self state

theorem move_all_inverse {circuit : Circuit} (wellFormed : circuit.WellFormed)
    (masks : Nat × Nat) :
    moveAll circuit.inverse.instructions (moveAll circuit.instructions masks) = masks :=
  foldl_inverse (fun instruction member => move_inverse (wellFormed instruction member)) masks

end StabilizerPrep.Circuit

namespace StabilizerPrep.Layer

set_option autoImplicit false

open Mask Instruction

theorem mem_instructions {layer : Layer} {instruction : Instruction}
    (member : instruction ∈ layer.instructions) :
    ∃ qubit < layer.qubits, ∃ gate ∈ (layer.clifford qubit).gates,
      instruction = ⟨gate, [qubit]⟩ := by
  obtain ⟨block, blockMember, inBlock⟩ := List.mem_flatten.1 member
  obtain ⟨qubit, inside, rfl⟩ := List.mem_mapIdx.1 blockMember
  obtain ⟨gate, gateMember, rfl⟩ := List.mem_map.1 inBlock
  refine ⟨qubit, inside, gate, ?_, rfl⟩
  rwa [clifford, List.getD_eq_getElem _ _ inside]

theorem arity_gates {clifford : LocalClifford} {gate : Gate} (member : gate ∈ clifford.gates) :
    gate.arity = 1 := by
  have each : ∀ gate ∈ clifford.gates, gate.arity = 1 := by cases clifford <;> decide
  exact each gate member

theorem well_formed_circuit (layer : Layer) : layer.circuit.WellFormed := by
  intro instruction member
  obtain ⟨qubit, inside, gate, gateMember, rfl⟩ := mem_instructions member
  exact Instruction.check_within_single inside (arity_gates gateMember)

theorem foldl_turn_gates (clifford : LocalClifford) (bits : Bool × Bool) :
    clifford.gates.foldl (fun bits gate => turn gate bits) bits = clifford.act bits.1 bits.2 := by
  obtain ⟨x, z⟩ := bits
  cases clifford <;> cases x <;> cases z <;> rfl

theorem instructions_concat (cliffords : List LocalClifford) (last : LocalClifford) :
    (Layer.mk (cliffords ++ [last])).instructions =
      (Layer.mk cliffords).instructions ++
        last.gates.map fun gate => ⟨gate, [cliffords.length]⟩ := by
  simp only [instructions, List.mapIdx_concat, List.flatten_append, List.flatten_cons,
    List.flatten_nil, List.append_nil]

theorem bits_at_move_all_instructions (layer : Layer) (masks : Nat × Nat) (qubit : Nat) :
    bitsAt (moveAll layer.instructions masks) qubit =
      (layer.clifford qubit).act (masks.1.testBit qubit) (masks.2.testBit qubit) := by
  obtain ⟨cliffords⟩ := layer
  -- the induction adds the Clifford of the last qubit, whose gates come last
  induction cliffords using List.reverseRecOn with
  | nil => exact (LocalClifford.act_i _ _).symm
  | append_singleton cliffords last ih =>
      rw [instructions_concat, move_all_append, bits_at_move_all fun gate => arity_gates, ih]
      by_cases own : cliffords.length = qubit
      · have absent : (Layer.mk cliffords).clifford qubit = .i := by
          simp [clifford, List.getD_eq_getElem?_getD, ← own]
        have added : (Layer.mk (cliffords ++ [last])).clifford qubit = last := by
          simp [clifford, List.getD_eq_getElem?_getD, ← own]
        rw [if_pos own, absent, added, LocalClifford.act_i, foldl_turn_gates]
      · have kept : (Layer.mk (cliffords ++ [last])).clifford qubit =
            (Layer.mk cliffords).clifford qubit := by
          simp only [clifford, List.getD_eq_getElem?_getD]
          rcases Nat.lt_or_gt_of_ne own with above | below
          · rw [List.getElem?_eq_none (by simp; omega), List.getElem?_eq_none (by omega)]
          · rw [List.getElem?_append_left below]
        rw [if_neg own, kept]

/-- The circuit of a layer moves operators as the layer acts on them. -/
theorem move_all_instructions {layer : Layer} {masks : Nat × Nat}
    (within : Within layer.qubits masks) :
    moveAll layer.instructions masks =
      (layer.actX masks.1 masks.2, layer.actZ masks.1 masks.2) := by
  apply eq_of_bits_at
  intro qubit
  rw [bits_at_move_all_instructions]
  by_cases inside : qubit < layer.qubits
  · rw [bitsAt, test_bit_act_x inside, test_bit_act_z inside]
  · have outside := Nat.not_lt.1 inside
    rw [bitsAt, test_bit_beyond (layer.act_x_lt _ _) outside,
      test_bit_beyond (layer.act_z_lt _ _) outside, test_bit_beyond within.1 outside,
      test_bit_beyond within.2 outside, LocalClifford.act_false]

theorem act_of_move_all_inverse {layer : Layer} {masks moved : Nat × Nat}
    (reached : moveAll layer.circuit.inverse.instructions masks = moved)
    (within : Within layer.qubits moved) :
    (layer.actX moved.1 moved.2, layer.actZ moved.1 moved.2) = masks := by
  have undone :=
    Circuit.move_all_inverse (Circuit.well_formed_inverse layer.well_formed_circuit) masks
  rw [← move_all_instructions within, ← reached]
  rwa [Circuit.inverse_inverse] at undone

end StabilizerPrep.Layer
