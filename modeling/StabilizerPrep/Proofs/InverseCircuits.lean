import StabilizerPrep.Proofs.Preparation
import StabilizerPrep.Proofs.TableText

/-!
# Inverse circuits

Conjugation by an instruction is undone by conjugation by its inverse, signs
included: `s` and `sdg` change the signs of different operators, but each of
them that of the operator which the other one makes. So a circuit followed by
its inverse restores every tableau, and a readout circuit leads from what its
preparation circuit prepares back to all zeros.
-/

namespace StabilizerPrep.Generator

set_option autoImplicit false

open Mask

theorem hadamard_hadamard (qubit : Nat) (generator : Generator) :
    (generator.hadamard qubit).hadamard qubit = generator := by
  refine eq_of_masks (exchange_bits_exchange_bits qubit (generator.x, generator.z)) ?_
  simp only [hadamard, test_bit_toggle, decide_true, Bool.and_true]
  cases generator.negative <;> cases generator.x.testBit qubit <;>
    cases generator.z.testBit qubit <;> rfl

theorem phase_inverse_phase (qubit : Nat) (generator : Generator) :
    (generator.phase qubit).phaseInverse qubit = generator := by
  refine eq_of_masks (shear_bits_shear_bits qubit (generator.x, generator.z)) ?_
  simp only [phase, phaseInverse, test_bit_toggle, decide_true, Bool.and_true]
  cases generator.negative <;> cases generator.x.testBit qubit <;>
    cases generator.z.testBit qubit <;> rfl

theorem phase_phase_inverse (qubit : Nat) (generator : Generator) :
    (generator.phaseInverse qubit).phase qubit = generator := by
  refine eq_of_masks (shear_bits_shear_bits qubit (generator.x, generator.z)) ?_
  simp only [phase, phaseInverse, test_bit_toggle, decide_true, Bool.and_true]
  cases generator.negative <;> cases generator.x.testBit qubit <;>
    cases generator.z.testBit qubit <;> rfl

theorem flip_flip (condition : Bool) (generator : Generator) :
    (generator.flip condition).flip condition = generator := by
  refine eq_of_masks rfl ?_
  simp only [flip]
  cases condition <;> cases generator.negative <;> rfl

theorem controlled_x_controlled_x {control target : Nat} (apart : control ≠ target)
    (generator : Generator) :
    (generator.controlledX control target).controlledX control target = generator := by
  refine eq_of_masks (spread_bits_spread_bits apart (generator.x, generator.z)) ?_
  -- with both factors spreading, the two bits that are compared change together
  simp only [controlledX, test_bit_toggle, decide_eq_false apart, decide_eq_false apart.symm,
    decide_true, Bool.and_true, Bool.and_false, Bool.bne_false]
  cases generator.negative <;> cases generator.x.testBit control <;>
    cases generator.z.testBit control <;> cases generator.x.testBit target <;>
      cases generator.z.testBit target <;> rfl

theorem controlled_z_controlled_z {first second : Nat} (apart : first ≠ second)
    (generator : Generator) :
    (generator.controlledZ first second).controlledZ first second = generator := by
  simp only [controlledZ, hadamard_hadamard, controlled_x_controlled_x apart]

theorem exchange_exchange (first second : Nat) (generator : Generator) :
    (generator.exchange first second).exchange first second = generator :=
  eq_of_masks (swap_bits_swap_bits first second (generator.x, generator.z)) rfl

/-- Conjugation by an instruction is undone by its inverse, signs included. -/
theorem conjugate_inverse {width : Nat} {instruction : Instruction}
    (fits : instruction.checkWithin width = .ok ()) (generator : Generator) :
    (generator.conjugate instruction).conjugate instruction.inverse = generator := by
  obtain ⟨gate, qubits⟩ := instruction
  obtain ⟨qubit, -, rfl, arity⟩ | ⟨first, -, second, -, apart, rfl, arity⟩ :=
    Instruction.cases_of_check_within fits
  · cases gate with
    | h => exact hadamard_hadamard qubit generator
    | s => exact phase_inverse_phase qubit generator
    | sdg => exact phase_phase_inverse qubit generator
    | x => exact flip_flip _ generator
    | y => exact flip_flip _ generator
    | z => exact flip_flip _ generator
    | cx => cases arity
    | cz => cases arity
    | swap => cases arity
  · cases gate with
    | h => cases arity
    | s => cases arity
    | sdg => cases arity
    | x => cases arity
    | y => cases arity
    | z => cases arity
    | cx => exact controlled_x_controlled_x apart generator
    | cz => exact controlled_z_controlled_z apart generator
    | swap => exact exchange_exchange first second generator

end StabilizerPrep.Generator

namespace StabilizerPrep.Tableau

set_option autoImplicit false

theorem apply_inverse {width : Nat} {instruction : Instruction}
    (fits : instruction.checkWithin width = .ok ()) (tableau : Tableau) :
    (tableau.apply instruction).apply instruction.inverse = tableau := by
  obtain ⟨qubits, generators⟩ := tableau
  simp only [apply, List.map_map, mk.injEq, true_and]
  conv_rhs => rw [← List.map_id generators]
  apply List.map_congr_left
  intro generator _
  exact Generator.conjugate_inverse fits generator

/-- A circuit followed by its inverse restores every tableau. -/
theorem run_inverse {circuit : Circuit} (wellFormed : circuit.WellFormed) (tableau : Tableau) :
    (tableau.run circuit.instructions).run circuit.inverse.instructions = tableau :=
  Circuit.foldl_inverse (fun instruction member => apply_inverse (wellFormed instruction member))
    tableau

theorem run_append (first second : List Instruction) (tableau : Tableau) :
    tableau.run (first ++ second) = (tableau.run first).run second :=
  List.foldl_append

theorem run?_of_well_formed {circuit : Circuit} (wellFormed : circuit.WellFormed)
    (small : circuit.width ≤ 64) (tableau : Tableau) :
    tableau.run? circuit.instructions = some (tableau.run circuit.instructions) := by
  refine if_pos (List.all_eq_true.2 fun instruction member => ?_)
  rw [admits, Bool.or_eq_true, List.all_eq_true]
  refine .inr fun qubit operand => decide_eq_true ?_
  exact Nat.lt_of_lt_of_le
    (Circuit.lt_of_check_within (wellFormed instruction member) qubit operand)
    small

end StabilizerPrep.Tableau

namespace StabilizerPrep.Circuit

set_option autoImplicit false

def closed (circuit : Circuit) : Circuit :=
  ⟨circuit.width, circuit.instructions ++ circuit.inverse.instructions⟩

theorem compose_inverse (circuit : Circuit) :
    circuit.compose circuit.inverse = .ok circuit.closed :=
  if_pos rfl

theorem simulate_closed {circuit : Circuit} (wellFormed : circuit.WellFormed)
    (small : circuit.width ≤ 64) :
    Tableau.ofCircuit circuit.closed = .ok (.start circuit.width) := by
  have size : circuit.closed.width ≤ Pauli.maxQubits := small
  rw [simulate_eq_run size, closed, Tableau.run_append, Tableau.run_inverse wellFormed]

theorem of_circuit_closed {circuit : Circuit} (wellFormed : circuit.WellFormed)
    (large : 1 ≤ circuit.width) (small : circuit.width ≤ 64) :
    ∃ final, Stabilizer.ofCircuit circuit.closed = .ok final ∧
      final.paulis = (List.range circuit.width).map fun qubit =>
        Pauli.ofMasks circuit.width 0 (Mask.single qubit) false := by
  have size : Stabilizer.checkSize circuit.closed.width = .ok () :=
    (check_size_eq_ok_iff _).2 ⟨large, small⟩
  have formed : circuit.closed.WellFormed :=
    well_formed_append wellFormed (well_formed_inverse wellFormed)
  refine ⟨circuit.closed.prepared, of_circuit_eq size, ?_⟩
  have simulated := simulate_closed wellFormed small
  rw [simulate_eq (show circuit.closed.width ≤ Pauli.maxQubits from small)] at simulated
  have images : circuit.closed.images = (Tableau.start circuit.width).generators :=
    congrArg Tableau.generators (Except.ok.inj simulated)
  rw [Stabilizer.paulis, generators_prepared formed, images, qubits_prepared, Tableau.start,
    List.map_map]
  rfl

end StabilizerPrep.Circuit

namespace StabilizerPrep.Store

set_option autoImplicit false

/-- Over one source, readout gives the inverse of what preparation gives,
whatever the two stores have been asked for before. -/
theorem readout_of_preparation {source : Source} {first second : Store}
    (firstFaithful : Faithful source first) (secondFaithful : Faithful source second)
    {stabilizer : Stabilizer} {device : Device} {circuit : Circuit}
    (prepared : (perform (preparation stabilizer device) first).1 = .ok circuit) :
    (perform (readout stabilizer device) second).1 = .ok circuit.inverse := by
  rw [fst_perform_preparation firstFaithful] at prepared
  rw [fst_perform_readout secondFaithful]
  cases outcome : synthesisOf source stabilizer device with
  | error fault =>
      rw [outcome] at prepared
      cases prepared
  | ok synthesis =>
      rw [outcome] at prepared
      obtain rfl : synthesis.circuit = circuit := Except.ok.inj prepared
      rfl

/-- A circuit is undone by its inverse. On up to 64 qubits, a circuit and then
its inverse run on every tableau, whatever gates have led to it, and restore it
with its signs; composed, they leave the tableau of a simulation as it starts.
Over any source and after any requests, the readout circuit of a stabilizer
behind its preparation circuit gives the operators `Z` in the order of the
qubits, all of them with a plus. -/
theorem inverse_restores :
    (∀ circuit : Circuit, circuit.WellFormed → circuit.width ≤ 64 →
      (∀ tableau : Tableau, ∃ moved, tableau.run? circuit.instructions = some moved ∧
        moved.run? circuit.inverse.instructions = some tableau) ∧
      ∃ joined initial, circuit.compose circuit.inverse = .ok joined ∧
        Tableau.new circuit.width = .ok initial ∧ Tableau.ofCircuit joined = .ok initial) ∧
    ∀ (source : Source) (earlier later : List Request) (stabilizer : Stabilizer) (device : Device)
      (circuit : Circuit),
      (perform (preparation stabilizer device) (after source earlier)).1 = .ok circuit →
      ∃ behind joined final,
        (perform (readout stabilizer device) (after source later)).1 = .ok behind ∧
        circuit.compose behind = .ok joined ∧ Stabilizer.ofCircuit joined = .ok final ∧
        final.paulis = (List.range stabilizer.qubits).map fun qubit =>
          Pauli.ofMasks stabilizer.qubits 0 (Mask.single qubit) false := by
  constructor
  · intro circuit wellFormed small
    refine ⟨fun tableau => ⟨_, Tableau.run?_of_well_formed wellFormed small tableau, ?_⟩,
      circuit.closed, _, circuit.compose_inverse, Circuit.new_eq small,
      Circuit.simulate_closed wellFormed small⟩
    rw [Tableau.run?_of_well_formed (Circuit.well_formed_inverse wellFormed) small,
      Tableau.run_inverse wellFormed]
  · intro source earlier later stabilizer device circuit prepared
    obtain ⟨synthesis, grounded, rfl⟩ :=
      (keeps_preparation stabilizer device _ (faithful_after source earlier)).2 circuit prepared
    obtain ⟨width, large, small⟩ := grounded.width
    rw [← width] at large small ⊢
    obtain ⟨final, simulated, paulis⟩ := Circuit.of_circuit_closed grounded.well_formed large small
    exact ⟨_, _, final, readout_of_preparation (faithful_after source earlier)
      (faithful_after source later) prepared, synthesis.circuit.compose_inverse, simulated, paulis⟩

/-- Gates of eight kinds on three qubits, and a Bell state with a sign, whose
readout is asked for after another preparation of it. -/
theorem inverse_restores_bell :
    let circuit : Circuit := ⟨3, [⟨.h, [0]⟩, ⟨.s, [1]⟩, ⟨.cx, [0, 2]⟩, ⟨.cz, [1, 2]⟩,
      ⟨.swap, [0, 1]⟩, ⟨.sdg, [2]⟩, ⟨.y, [1]⟩, ⟨.x, [0]⟩]⟩
    let source := Source.memory [(tableName 2 .all, "0:0:0:h0 h1\n1:1:1:h0 h1 cz0,1")]
    let bell := Stabilizer.ofGenerators [⟨0b11, 0, false⟩, ⟨0, 0b11, true⟩]
    let prepared : Circuit := ⟨2, [⟨.x, [0]⟩, ⟨.h, [0]⟩, ⟨.h, [1]⟩, ⟨.cz, [0, 1]⟩, ⟨.sdg, [1]⟩,
      ⟨.h, [0]⟩, ⟨.sdg, [0]⟩]⟩
    (∃ joined initial, circuit.compose circuit.inverse = .ok joined ∧
      Tableau.new circuit.width = .ok initial ∧ Tableau.ofCircuit joined = .ok initial) ∧
    (perform (preparation bell .all) (after source [])).1 = .ok prepared ∧
    ∃ behind joined final,
      (perform (readout bell .all) (after source [.synthesis bell .all])).1 = .ok behind ∧
      prepared.compose behind = .ok joined ∧ Stabilizer.ofCircuit joined = .ok final ∧
      final.paulis = [Pauli.ofMasks 2 0 0b01 false, Pauli.ofMasks 2 0 0b10 false] :=
  ⟨(inverse_restores.1 _ (List.forall_iff_forall_mem.1 (by decide)) (by decide)).2, rfl,
    inverse_restores.2 _ [] [.synthesis _ .all] _ .all _ rfl⟩

end StabilizerPrep.Store
