import StabilizerPrep.Proofs.Group

/-!
# Simulation of circuits

Up to signs, an instruction moves the two masks of an operator by a linear map
that keeps the symplectic form. So the images of the operators `Z` under a
well-formed circuit are again independent and commute: what a circuit prepares
is always a valid stabilizer, and its group is the image of all operators made
of factors `Z`.
-/

namespace StabilizerPrep.Mask

set_option autoImplicit false

theorem toggle_xor (firstCondition secondCondition : Bool) (position first second : Nat) :
    toggle (firstCondition != secondCondition) position (first ^^^ second) =
      toggle firstCondition position first ^^^ toggle secondCondition position second := by
  apply Nat.eq_of_testBit_eq
  intro other
  rw [Nat.testBit_xor, test_bit_toggle, test_bit_toggle, test_bit_toggle, Nat.testBit_xor]
  cases firstCondition <;> cases secondCondition <;> cases first.testBit other <;>
    cases second.testBit other <;> cases decide (position = other) <;> rfl

theorem swap_xor (first second mask other : Nat) :
    swap first second (mask ^^^ other) = swap first second mask ^^^ swap first second other := by
  apply Nat.eq_of_testBit_eq
  intro position
  simp only [Nat.testBit_xor, test_bit_swap]
  split
  · rfl
  · split <;> rfl

theorem toggle_lt {condition : Bool} {position mask width : Nat} (inside : position < width)
    (bound : mask < 2 ^ width) : toggle condition position mask < 2 ^ width := by
  cases condition
  · exact bound
  · exact Nat.xor_lt_two_pow bound (single_lt inside)

theorem swap_lt {first second mask width : Nat} (firstInside : first < width)
    (secondInside : second < width) (bound : mask < 2 ^ width) :
    swap first second mask < 2 ^ width := by
  rw [swap]
  split
  · exact bound
  · exact Nat.xor_lt_two_pow (Nat.xor_lt_two_pow bound (single_lt firstInside))
      (single_lt secondInside)

theorem dot_toggle_left (condition : Bool) (position mask other : Nat) :
    dot (toggle condition position mask) other =
      (dot mask other != (condition && other.testBit position)) := by
  cases condition
  · simp [toggle]
  · simp [toggle, dot_xor_left]

theorem dot_toggle_right (condition : Bool) (position mask other : Nat) :
    dot other (toggle condition position mask) =
      (dot other mask != (condition && other.testBit position)) := by
  rw [dot_comm, dot_toggle_left, dot_comm]

theorem swap_eq_toggle (first second mask : Nat) :
    swap first second mask =
      toggle (mask.testBit first != mask.testBit second) second
        (toggle (mask.testBit first != mask.testBit second) first mask) := by
  rw [swap]
  cases mask.testBit first <;> cases mask.testBit second <;> rfl

theorem dot_swap {first second : Nat} (apart : first ≠ second) (x z : Nat) :
    dot (swap first second x) (swap first second z) = dot x z := by
  simp only [swap_eq_toggle, dot_toggle_left, dot_toggle_right, test_bit_toggle,
    decide_eq_false apart, decide_eq_false apart.symm, decide_true, Bool.and_false,
    Bool.bne_false, Bool.and_true]
  cases dot x z <;> cases x.testBit first <;> cases x.testBit second <;>
    cases z.testBit first <;> cases z.testBit second <;> rfl

end StabilizerPrep.Mask

namespace StabilizerPrep.Instruction

set_option autoImplicit false

open Mask

theorem cases_of_check_within {width : Nat} {instruction : Instruction}
    (fits : instruction.checkWithin width = .ok ()) :
    (∃ qubit < width, instruction.qubits = [qubit] ∧ instruction.gate.arity = 1) ∨
      ∃ first < width, ∃ second < width, first ≠ second ∧
        instruction.qubits = [first, second] ∧ instruction.gate.arity = 2 := by
  have checked : instruction.check = .ok () := by
    cases checked : instruction.check with
    | error fault => rw [checkWithin, checked] at fits; cases fits
    | ok => rfl
  have inside : ∀ qubit ∈ instruction.qubits, qubit < width := by
    intro qubit member
    rw [checkWithin, checked] at fits
    simp only [bind, Except.bind] at fits
    split at fits
    · cases fits
    next absent =>
        have passed := List.find?_eq_none.1 absent qubit member
        simpa using passed
  rw [check] at checked
  split at checked
  · cases checked
  next count =>
      have length : instruction.qubits.length = instruction.gate.arity := not_not.1 count
      have arities : instruction.gate.arity = 1 ∨ instruction.gate.arity = 2 := by
        cases instruction.gate <;> decide
      rcases listed : instruction.qubits with _ | ⟨first, _ | ⟨second, _ | ⟨third, others⟩⟩⟩
      · rw [listed, List.length_nil] at length
        omega
      · refine .inl ⟨first, inside first (by simp [listed]), rfl, ?_⟩
        rw [← length, listed]
        rfl
      · rw [listed] at checked
        simp only at checked
        split at checked
        · cases checked
        next apart =>
            refine .inr ⟨first, inside first (by simp [listed]), second,
              inside second (by simp [listed]), apart, rfl, ?_⟩
            rw [← length, listed]
            rfl
      · rw [listed, List.length_cons, List.length_cons, List.length_cons] at length
        omega

theorem check_within_single {width qubit : Nat} {gate : Gate} (inside : qubit < width)
    (arity : gate.arity = 1) : (Instruction.mk gate [qubit]).checkWithin width = .ok () := by
  have within : ¬width ≤ qubit := Nat.not_le.2 inside
  simp [checkWithin, check, arity, within]
  rfl

theorem check_within_pair {width first second : Nat} {gate : Gate} (firstInside : first < width)
    (secondInside : second < width) (apart : first ≠ second) (arity : gate.arity = 2) :
    (Instruction.mk gate [first, second]).checkWithin width = .ok () := by
  have firstWithin : ¬width ≤ first := Nat.not_le.2 firstInside
  have secondWithin : ¬width ≤ second := Nat.not_le.2 secondInside
  simp [checkWithin, check, arity, apart, firstWithin, secondWithin]
  rfl

theorem check_within_inverse {width : Nat} {instruction : Instruction}
    (fits : instruction.checkWithin width = .ok ()) :
    instruction.inverse.checkWithin width = .ok () := by
  obtain ⟨gate, qubits⟩ := instruction
  obtain ⟨qubit, inside, rfl, arity⟩ |
      ⟨first, firstInside, second, secondInside, apart, rfl, arity⟩ :=
    cases_of_check_within fits
  · exact check_within_single inside ((Gate.arity_inverse gate).trans arity)
  · exact check_within_pair firstInside secondInside apart ((Gate.arity_inverse gate).trans arity)

end StabilizerPrep.Instruction

namespace StabilizerPrep.Mask

set_option autoImplicit false

def both (first second : Nat × Nat) : Nat × Nat :=
  (first.1 ^^^ second.1, first.2 ^^^ second.2)

/-- Whether two operators with the given masks fail to commute. -/
def form (first second : Nat × Nat) : Bool :=
  dot first.1 second.2 != dot first.2 second.1

def Within (width : Nat) (masks : Nat × Nat) : Prop :=
  masks.1 < 2 ^ width ∧ masks.2 < 2 ^ width

structure Isometry (width : Nat) (map : Nat × Nat → Nat × Nat) : Prop where
  additive : ∀ first second, map (both first second) = both (map first) (map second)
  within : ∀ masks, Within width masks → Within width (map masks)
  isometric : ∀ first second, form (map first) (map second) = form first second

namespace Isometry

variable {width : Nat} {map : Nat × Nat → Nat × Nat}

theorem id : Isometry width fun masks => masks where
  additive _ _ := rfl
  within _ bound := bound
  isometric _ _ := rfl

theorem comp {next : Nat × Nat → Nat × Nat} (isometry : Isometry width map)
    (later : Isometry width next) : Isometry width fun masks => next (map masks) where
  additive first second := by rw [isometry.additive, later.additive]
  within masks bound := later.within _ (isometry.within masks bound)
  isometric first second := by rw [later.isometric, isometry.isometric]

theorem zero (isometry : Isometry width map) : map (0, 0) = (0, 0) := by
  have doubled := isometry.additive (0, 0) (0, 0)
  have same : both (map (0, 0)) (map (0, 0)) = (0, 0) := by simp [both]
  rw [same] at doubled
  exact doubled

/-- An isometry has a trivial kernel, because the form is nondegenerate. -/
theorem eq_zero (isometry : Isometry width map) {masks : Nat × Nat}
    (killed : map masks = (0, 0)) : masks = (0, 0) := by
  have orthogonal : ∀ other, form masks other = false := by
    intro other
    rw [← isometry.isometric, killed]
    simp [form]
  have first : masks.1 = 0 := by
    apply Nat.eq_of_testBit_eq
    intro position
    simpa [form] using orthogonal (0, single position)
  have second : masks.2 = 0 := by
    apply Nat.eq_of_testBit_eq
    intro position
    simpa [form] using orthogonal (single position, 0)
  exact Prod.ext first second

theorem combine (isometry : Isometry width map) {α : Type} (items : List α) (xs zs : α → Nat)
    (selection : Nat) :
    map (Matrix.combine (items.map xs) selection, Matrix.combine (items.map zs) selection) =
      (Matrix.combine (items.map fun item => (map (xs item, zs item)).1) selection,
        Matrix.combine (items.map fun item => (map (xs item, zs item)).2) selection) := by
  induction items generalizing selection with
  | nil => exact isometry.zero
  | cons item items ih =>
      have rest := ih (selection / 2)
      simp only [List.map_cons, Matrix.combine]
      cases selection.testBit 0
      · simpa using rest
      · have sum := isometry.additive (xs item, zs item)
          (Matrix.combine (items.map xs) (selection / 2),
            Matrix.combine (items.map zs) (selection / 2))
        rw [rest] at sum
        exact sum

end Isometry

def exchangeBits (qubit : Nat) (masks : Nat × Nat) : Nat × Nat :=
  let differ := masks.1.testBit qubit != masks.2.testBit qubit
  (toggle differ qubit masks.1, toggle differ qubit masks.2)

def shearBits (qubit : Nat) (masks : Nat × Nat) : Nat × Nat :=
  (masks.1, toggle (masks.1.testBit qubit) qubit masks.2)

def spreadBits (control target : Nat) (masks : Nat × Nat) : Nat × Nat :=
  (toggle (masks.1.testBit control) target masks.1,
    toggle (masks.2.testBit target) control masks.2)

def swapBits (first second : Nat) (masks : Nat × Nat) : Nat × Nat :=
  (swap first second masks.1, swap first second masks.2)

theorem isometry_exchange_bits {width qubit : Nat} (inside : qubit < width) :
    Isometry width (exchangeBits qubit) where
  additive first second := by
    simp only [exchangeBits, both, Nat.testBit_xor]
    have differ : ((first.1.testBit qubit != second.1.testBit qubit) !=
          (first.2.testBit qubit != second.2.testBit qubit)) =
        ((first.1.testBit qubit != first.2.testBit qubit) !=
          (second.1.testBit qubit != second.2.testBit qubit)) := by
      cases first.1.testBit qubit <;> cases second.1.testBit qubit <;>
        cases first.2.testBit qubit <;> cases second.2.testBit qubit <;> rfl
    rw [differ, toggle_xor, toggle_xor]
  within masks bound := ⟨toggle_lt inside bound.1, toggle_lt inside bound.2⟩
  isometric first second := by
    simp only [exchangeBits, form, dot_toggle_left, dot_toggle_right, test_bit_toggle,
      decide_true, Bool.and_true]
    cases dot first.1 second.2 <;> cases dot first.2 second.1 <;>
      cases first.1.testBit qubit <;> cases second.1.testBit qubit <;>
        cases first.2.testBit qubit <;> cases second.2.testBit qubit <;> rfl

theorem isometry_shear_bits {width qubit : Nat} (inside : qubit < width) :
    Isometry width (shearBits qubit) where
  additive first second := by
    simp only [shearBits, both, Nat.testBit_xor, toggle_xor]
  within masks bound := ⟨bound.1, toggle_lt inside bound.2⟩
  isometric first second := by
    simp only [shearBits, form, dot_toggle_left, dot_toggle_right]
    cases dot first.1 second.2 <;> cases dot first.2 second.1 <;>
      cases first.1.testBit qubit <;> cases second.1.testBit qubit <;> rfl

theorem isometry_spread_bits {width control target : Nat} (controlInside : control < width)
    (targetInside : target < width) (apart : control ≠ target) :
    Isometry width (spreadBits control target) where
  additive first second := by
    simp only [spreadBits, both, Nat.testBit_xor, toggle_xor]
  within masks bound := ⟨toggle_lt targetInside bound.1, toggle_lt controlInside bound.2⟩
  isometric first second := by
    simp only [spreadBits, form, dot_toggle_left, dot_toggle_right, test_bit_toggle,
      decide_eq_false apart, decide_eq_false apart.symm, Bool.and_false, Bool.bne_false]
    cases dot first.1 second.2 <;> cases dot first.2 second.1 <;>
      cases first.1.testBit control <;> cases second.1.testBit control <;>
        cases first.2.testBit target <;> cases second.2.testBit target <;> rfl

theorem isometry_swap_bits {width first second : Nat} (firstInside : first < width)
    (secondInside : second < width) (apart : first ≠ second) :
    Isometry width (swapBits first second) where
  additive masks other := by
    simp only [swapBits, both, swap_xor]
  within masks bound := ⟨swap_lt firstInside secondInside bound.1,
    swap_lt firstInside secondInside bound.2⟩
  isometric masks other := by
    rw [form, form, swapBits, swapBits, dot_swap apart, dot_swap apart]

end StabilizerPrep.Mask

namespace StabilizerPrep.Instruction

set_option autoImplicit false

open Mask

/-- The masks of the image of an operator with the given masks. -/
def move (instruction : Instruction) (masks : Nat × Nat) : Nat × Nat :=
  match instruction.gate, instruction.qubits with
  | .h, [qubit] => exchangeBits qubit masks
  | .s, [qubit] | .sdg, [qubit] => shearBits qubit masks
  | .cx, [control, target] => spreadBits control target masks
  | .cz, [first, second] =>
      exchangeBits second (spreadBits first second (exchangeBits second masks))
  | .swap, [first, second] => swapBits first second masks
  | _, _ => masks

theorem conjugate_masks (instruction : Instruction) (generator : Generator) :
    ((Generator.conjugate instruction generator).x, (Generator.conjugate instruction generator).z) =
      instruction.move (generator.x, generator.z) := by
  obtain ⟨gate, qubits⟩ := instruction
  cases gate <;> match qubits with
    | [] | [_] | [_, _] | _ :: _ :: _ :: _ => rfl

theorem isometry_move {width : Nat} {instruction : Instruction}
    (fits : instruction.checkWithin width = .ok ()) : Isometry width instruction.move := by
  obtain ⟨gate, qubits⟩ := instruction
  obtain ⟨qubit, inside, rfl, arity⟩ |
      ⟨first, firstInside, second, secondInside, apart, rfl, arity⟩ :=
    cases_of_check_within fits
  · cases gate with
    | h => exact isometry_exchange_bits inside
    | s => exact isometry_shear_bits inside
    | sdg => exact isometry_shear_bits inside
    | x => exact .id
    | y => exact .id
    | z => exact .id
    | cx => cases arity
    | cz => cases arity
    | swap => cases arity
  · cases gate with
    | h => cases arity
    | s => cases arity
    | sdg => cases arity
    | x => cases arity
    | y => cases arity
    | z => cases arity
    | cx => exact isometry_spread_bits firstInside secondInside apart
    | cz =>
        have turn := isometry_exchange_bits secondInside
        exact (turn.comp (isometry_spread_bits firstInside secondInside apart)).comp turn
    | swap => exact isometry_swap_bits firstInside secondInside apart

def moveAll (instructions : List Instruction) (masks : Nat × Nat) : Nat × Nat :=
  instructions.foldl (fun masks instruction => instruction.move masks) masks

theorem move_all_append (first second : List Instruction) (masks : Nat × Nat) :
    moveAll (first ++ second) masks = moveAll second (moveAll first masks) :=
  List.foldl_append

theorem isometry_move_all {width : Nat} {instructions : List Instruction}
    (fit : ∀ instruction ∈ instructions, instruction.checkWithin width = .ok ()) :
    Isometry width (moveAll instructions) := by
  induction instructions with
  | nil => exact .id
  | cons instruction instructions ih =>
      have rest := ih fun other member => fit other (List.mem_cons_of_mem _ member)
      exact (isometry_move (fit instruction List.mem_cons_self)).comp rest

end StabilizerPrep.Instruction

namespace StabilizerPrep.Generator

set_option autoImplicit false

theorem eq_of_masks {first second : Generator}
    (masks : (first.x, first.z) = (second.x, second.z))
    (signs : first.negative = second.negative) : first = second := by
  obtain ⟨sameX, sameZ⟩ := Prod.mk.inj masks
  cases first
  cases second
  simp only [mk.injEq]
  exact ⟨sameX, sameZ, signs⟩

def follow (instructions : List Instruction) (generator : Generator) : Generator :=
  instructions.foldl (fun generator instruction => generator.conjugate instruction) generator

theorem follow_append (first second : List Instruction) (generator : Generator) :
    generator.follow (first ++ second) = (generator.follow first).follow second :=
  List.foldl_append

theorem follow_masks (instructions : List Instruction) (generator : Generator) :
    ((generator.follow instructions).x, (generator.follow instructions).z) =
      Instruction.moveAll instructions (generator.x, generator.z) := by
  induction instructions generalizing generator with
  | nil => rfl
  | cons instruction instructions ih =>
      have step := ih (generator.conjugate instruction)
      rw [Instruction.conjugate_masks] at step
      exact step

theorem conjugate_flip (instruction : Instruction) (condition : Bool) (generator : Generator) :
    (generator.flip condition).conjugate instruction =
      (generator.conjugate instruction).flip condition := by
  have swapped : ∀ first second : Bool,
      ((first != condition) != second) = ((first != second) != condition) := by
    intro first second
    cases first <;> cases second <;> cases condition <;> rfl
  obtain ⟨gate, qubits⟩ := instruction
  cases gate <;> match qubits with
    | [] | [_] | [_, _] | _ :: _ :: _ :: _ =>
        simp only [conjugate, flip, hadamard, phase, phaseInverse, controlledX, controlledZ,
          exchange, swapped]

theorem follow_flip (instructions : List Instruction) (condition : Bool) (generator : Generator) :
    (generator.flip condition).follow instructions =
      (generator.follow instructions).flip condition := by
  induction instructions generalizing generator with
  | nil => rfl
  | cons instruction instructions ih =>
      rw [follow, List.foldl_cons, conjugate_flip]
      exact ih (generator.conjugate instruction)

end StabilizerPrep.Generator

namespace StabilizerPrep.Stabilizer

set_option autoImplicit false

theorem generators_of_generators {generators : List Generator}
    (bounded : ∀ generator ∈ generators, generator.x < 2 ^ generators.length ∧
      generator.z < 2 ^ generators.length) :
    (ofGenerators generators).generators = generators := by
  conv_rhs => rw [← List.map_id generators]
  apply List.map_congr_left
  intro generator member
  obtain ⟨xBound, zBound⟩ := bounded generator member
  rw [Nat.mod_eq_of_lt xBound, Nat.mod_eq_of_lt zBound]
  rfl

end StabilizerPrep.Stabilizer

namespace StabilizerPrep.Circuit

set_option autoImplicit false

open Mask Instruction

def images (circuit : Circuit) : List Generator :=
  (List.range circuit.width).map fun qubit =>
    Generator.follow circuit.instructions ⟨0, single qubit, false⟩

def prepared (circuit : Circuit) : Stabilizer :=
  .ofGenerators circuit.images

theorem run_generators (instructions : List Instruction) (tableau : Tableau) :
    tableau.run instructions =
      ⟨tableau.qubits, tableau.generators.map (Generator.follow instructions)⟩ := by
  induction instructions generalizing tableau with
  | nil =>
      have same : tableau.generators.map (Generator.follow []) = tableau.generators :=
        List.map_id _
      rw [same]
      rfl
  | cons instruction instructions ih =>
      rw [Tableau.run, List.foldl_cons]
      refine (ih (tableau.apply instruction)).trans ?_
      rw [Tableau.apply, List.map_map]
      rfl

theorem mapM_generator_of (qubits : Nat) (generators : List Generator) :
    (generators.map (Generator.toPauli qubits)).mapM (Stabilizer.generatorOf qubits) =
      .ok generators := by
  induction generators with
  | nil => rfl
  | cons generator generators ih =>
      have own : Stabilizer.generatorOf qubits (generator.toPauli qubits) = .ok generator := by
        have sized : ¬(generator.toPauli qubits).qubits ≠ qubits := not_not.2 rfl
        rw [Stabilizer.generatorOf, if_neg sized, Generator.toPauli, Pauli.sign_of_masks]
        rfl
      rw [List.map_cons, List.mapM_cons, own, ih]
      rfl

theorem check_size_eq_ok_iff (qubits : Nat) :
    Stabilizer.checkSize qubits = .ok () ↔ 0 < qubits ∧ qubits ≤ Pauli.maxQubits := by
  rw [Stabilizer.checkSize]
  split
  next none => simp [none]
  next some =>
      split
      next large => simp [large]
      next small => simp [Nat.pos_of_ne_zero some, Nat.le_of_not_lt small]

theorem new_eq {qubits : Nat} (small : qubits ≤ Pauli.maxQubits) :
    Tableau.new qubits = .ok (.start qubits) :=
  if_neg (Nat.not_lt.2 small)

theorem simulate_eq_run {circuit : Circuit} (small : circuit.width ≤ Pauli.maxQubits) :
    Tableau.ofCircuit circuit =
      .ok ((Tableau.start circuit.width).run circuit.instructions) := by
  rw [Tableau.ofCircuit, new_eq small]
  rfl

theorem simulate_eq {circuit : Circuit} (small : circuit.width ≤ Pauli.maxQubits) :
    Tableau.ofCircuit circuit = .ok ⟨circuit.width, circuit.images⟩ := by
  rw [simulate_eq_run small, run_generators, Tableau.start, List.map_map]
  rfl

/-- Simulation gives the images of the operators `Z`, for every circuit of a
size that can be simulated. -/
theorem of_circuit_eq {circuit : Circuit} (size : Stabilizer.checkSize circuit.width = .ok ()) :
    Stabilizer.ofCircuit circuit = .ok circuit.prepared := by
  have simulated := simulate_eq ((check_size_eq_ok_iff circuit.width).1 size).2
  have length : (circuit.images.map (Generator.toPauli circuit.width)).length = circuit.width := by
    simp [images]
  rw [Stabilizer.ofCircuit, size, simulated]
  change Stabilizer.ofPaulis (circuit.images.map (Generator.toPauli circuit.width)) = _
  rw [Stabilizer.ofPaulis, length, size, mapM_generator_of]
  rfl

theorem eq_prepared {circuit : Circuit} {stabilizer : Stabilizer}
    (simulated : Stabilizer.ofCircuit circuit = .ok stabilizer) :
    stabilizer = circuit.prepared := by
  cases size : Stabilizer.checkSize circuit.width with
  | ok =>
      rw [of_circuit_eq size] at simulated
      exact (Except.ok.inj simulated).symm
  | error fault =>
      rw [Stabilizer.ofCircuit, size] at simulated
      cases simulated

variable {circuit : Circuit}

@[simp] theorem qubits_prepared : circuit.prepared.qubits = circuit.width := by
  simp [prepared, Stabilizer.ofGenerators, Stabilizer.qubits, images]

theorem images_within (wellFormed : circuit.WellFormed) :
    ∀ generator ∈ circuit.images, Within circuit.width (generator.x, generator.z) := by
  intro generator member
  obtain ⟨qubit, inside, rfl⟩ := List.mem_map.1 member
  rw [Generator.follow_masks]
  exact (isometry_move_all wellFormed).within _
    ⟨Nat.two_pow_pos _, single_lt (List.mem_range.1 inside)⟩

theorem generators_prepared (wellFormed : circuit.WellFormed) :
    circuit.prepared.generators = circuit.images := by
  have length : circuit.images.length = circuit.width := by simp [images]
  apply Stabilizer.generators_of_generators
  rw [length]
  exact images_within wellFormed

theorem combine_prepared (wellFormed : circuit.WellFormed) {selection : Nat}
    (bound : selection < 2 ^ circuit.width) :
    (Matrix.combine circuit.prepared.xs selection, Matrix.combine circuit.prepared.zs selection) =
      moveAll circuit.instructions (0, selection) := by
  have zeros : Matrix.combine ((List.range circuit.width).map fun _ => 0) selection = 0 :=
    Matrix.combine_map (List.range circuit.width) (fun _ => 0) rfl
      (fun _ _ => (Nat.xor_self 0).symm) selection
  have singles : Matrix.combine ((List.range circuit.width).map single) selection = selection := by
    rw [Matrix.combine_singles, Nat.mod_eq_of_lt bound]
  have moved := (isometry_move_all wellFormed).combine (List.range circuit.width) (fun _ => 0)
    single selection
  have masks : ∀ qubit, moveAll circuit.instructions (0, single qubit) =
      ((Generator.follow circuit.instructions ⟨0, single qubit, false⟩).x,
        (Generator.follow circuit.instructions ⟨0, single qubit, false⟩).z) :=
    fun qubit => (Generator.follow_masks _ ⟨0, single qubit, false⟩).symm
  rw [zeros, singles] at moved
  rw [moved, Stabilizer.xs, Stabilizer.zs, generators_prepared wellFormed, images, List.map_map,
    List.map_map]
  simp only [Function.comp_def, masks]

/-- What a well-formed circuit prepares is a valid stabilizer. -/
theorem valid_prepared (wellFormed : circuit.WellFormed) : circuit.prepared.Valid where
  independent := by
    intro selection bound zeroX zeroZ
    rw [qubits_prepared] at bound
    have sums := combine_prepared wellFormed bound
    rw [zeroX, zeroZ] at sums
    have killed := (isometry_move_all wellFormed).eq_zero sums.symm
    exact (Prod.mk.inj killed).2
  isotropic := by
    rw [generators_prepared wellFormed]
    intro first firstMember second secondMember
    obtain ⟨firstQubit, _, rfl⟩ := List.mem_map.1 firstMember
    obtain ⟨secondQubit, _, rfl⟩ := List.mem_map.1 secondMember
    have kept := (isometry_move_all wellFormed).isometric (0, single firstQubit)
      (0, single secondQubit)
    rw [← Generator.follow_masks _ ⟨0, single firstQubit, false⟩,
      ← Generator.follow_masks _ ⟨0, single secondQubit, false⟩] at kept
    rw [Generator.commutes_eq, beq_iff_eq]
    simpa [form] using kept

/-- The group of a prepared state is the image of the operators made of
factors `Z`. -/
theorem contains_prepared_iff (wellFormed : circuit.WellFormed) {x z : Nat} :
    circuit.prepared.Contains x z ↔
      ∃ selection < 2 ^ circuit.width,
        moveAll circuit.instructions (0, selection) = (x, z) := by
  constructor
  · intro contained
    obtain ⟨selection, bound, rfl, rfl⟩ := contained.exists_lt
    rw [qubits_prepared] at bound
    exact ⟨selection, bound, (combine_prepared wellFormed bound).symm⟩
  · rintro ⟨selection, bound, moved⟩
    rw [← combine_prepared wellFormed bound, Prod.mk.injEq] at moved
    exact ⟨selection, moved⟩

theorem contains_prepared_append_iff {width : Nat} {first second : List Instruction}
    (wellFormed : (Circuit.mk width (first ++ second)).WellFormed) {x z : Nat} :
    (Circuit.mk width (first ++ second)).prepared.Contains x z ↔
      ∃ masks, (Circuit.mk width first).prepared.Contains masks.1 masks.2 ∧
        moveAll second masks = (x, z) := by
  have firstFormed : (Circuit.mk width first).WellFormed := fun instruction member =>
    wellFormed instruction (List.mem_append_left _ member)
  rw [contains_prepared_iff wellFormed]
  simp only [move_all_append]
  constructor
  · rintro ⟨selection, bound, moved⟩
    exact ⟨_, (contains_prepared_iff firstFormed).2 ⟨selection, bound, rfl⟩, moved⟩
  · rintro ⟨masks, contained, moved⟩
    obtain ⟨selection, bound, reached⟩ := (contains_prepared_iff firstFormed).1 contained
    refine ⟨selection, bound, ?_⟩
    rw [show moveAll first (0, selection) = masks from reached, moved]

theorem of_circuit_error {fault : Fault}
    (size : Stabilizer.checkSize circuit.width = .error fault) :
    Stabilizer.ofCircuit circuit = .error fault := by
  rw [Stabilizer.ofCircuit, size]
  rfl

/-- A circuit on 1 to 64 qubits, of any length, gives a valid stabilizer: its
generators are those of the tableau, they are independent, and they commute.
Without qubits, or with more of them, there is none. -/
theorem simulation_valid (circuit : Circuit) :
    (circuit.WellFormed → 1 ≤ circuit.width → circuit.width ≤ 64 →
      ∃ stabilizer tableau, Stabilizer.ofCircuit circuit = .ok stabilizer ∧
        Tableau.ofCircuit circuit = .ok tableau ∧
        stabilizer.qubits = circuit.width ∧
        stabilizer.validate = .ok () ∧
        stabilizer.checkMatrix.rank = circuit.width ∧
        (∀ first ∈ stabilizer.generators, ∀ second ∈ stabilizer.generators,
          first.commutes second = true) ∧
        stabilizer.generators = tableau.generators ∧
        stabilizer.paulis = tableau.paulis) ∧
    (circuit.width = 0 →
      Stabilizer.ofCircuit circuit = .error (.invalidStabilizer .noGenerators)) ∧
    (64 < circuit.width →
      Stabilizer.ofCircuit circuit = .error (.tooManyQubits circuit.width 64)) := by
  refine ⟨?_, ?_, ?_⟩
  · intro wellFormed positive small
    have size : Stabilizer.checkSize circuit.width = .ok () :=
      (check_size_eq_ok_iff circuit.width).2 ⟨positive, small⟩
    have valid := valid_prepared wellFormed
    have same := generators_prepared wellFormed
    refine ⟨circuit.prepared, _, of_circuit_eq size, simulate_eq small, qubits_prepared,
      circuit.prepared.validate_eq_ok_iff.2 valid, ?_, valid.isotropic, same, ?_⟩
    · rw [circuit.prepared.rank_check_matrix_iff.2 valid.independent, qubits_prepared]
    · rw [Stabilizer.paulis, Tableau.paulis, same, qubits_prepared]
  · intro none
    apply of_circuit_error
    rw [none]
    rfl
  · intro large
    apply of_circuit_error
    have some : circuit.width ≠ 0 := by omega
    rw [Stabilizer.checkSize, if_neg some, if_pos (show Pauli.maxQubits < circuit.width from large)]
    rfl

/-- The largest size, with the masks used up to their last place. -/
theorem simulation_valid_largest :
    (Circuit.mk 64 [⟨.h, [63]⟩, ⟨.cx, [63, 0]⟩, ⟨.sdg, [0]⟩, ⟨.swap, [0, 62]⟩]).WellFormed ∧
    (∃ stabilizer,
      Stabilizer.ofCircuit ⟨64, [⟨.h, [63]⟩, ⟨.cx, [63, 0]⟩, ⟨.sdg, [0]⟩, ⟨.swap, [0, 62]⟩]⟩ =
          .ok stabilizer ∧
        stabilizer.validate = .ok () ∧ stabilizer.checkMatrix.rank = 64) ∧
    Stabilizer.ofCircuit (.empty 0) = .error (.invalidStabilizer .noGenerators) ∧
    Stabilizer.ofCircuit (.empty 65) = .error (.tooManyQubits 65 64) := by
  have wellFormed :
      (Circuit.mk 64 [⟨.h, [63]⟩, ⟨.cx, [63, 0]⟩, ⟨.sdg, [0]⟩, ⟨.swap, [0, 62]⟩]).WellFormed := by
    intro instruction member
    revert instruction
    decide
  obtain ⟨stabilizer, _, simulated, _, _, validated, rank, _⟩ :=
    (simulation_valid _).1 wellFormed (by decide) (by decide)
  exact ⟨wellFormed, ⟨stabilizer, simulated, validated, rank⟩,
    (simulation_valid (.empty 0)).2.1 rfl, (simulation_valid (.empty 65)).2.2 (by decide)⟩

end StabilizerPrep.Circuit
