import Mathlib.LinearAlgebra.Finsupp.LinearCombination
import Mathlib.NumberTheory.Zsqrtd.GaussianInt
import Mathlib.Tactic.Module
import StabilizerPrep.Proofs.LayerCircuit

/-!
# Operators

Gates and Pauli operators act on formal combinations of bit strings, with
Gaussian integers as coefficients. Each gate exchanges a generator with its
conjugate, so a whole circuit does the same with what the simulation makes of
the generator: simulated signs are the signs of operators.
-/

namespace StabilizerPrep.Mask

set_option autoImplicit false

theorem weight_xor_single (position mask : Nat) :
    weight (mask ^^^ single position) + 2 * (mask.testBit position).toNat = weight mask + 1 := by
  induction position generalizing mask with
  | zero =>
      rw [weight_halves (mask ^^^ single 0), weight_halves mask]
      have half : (mask ^^^ single 0) / 2 = mask / 2 := by
        rw [Nat.xor_div_two]
        exact Nat.xor_zero _
      have low : (mask ^^^ single 0) % 2 = 1 - mask % 2 := by
        rw [Nat.xor_mod_two_eq]
        change (mask + 1) % 2 = _
        omega
      rw [half, low, Nat.testBit_zero]
      rcases Nat.mod_two_eq_zero_or_one mask with even | odd
      · simp only [even, Nat.zero_ne_one, decide_false, Bool.toNat_false]
        omega
      · simp only [odd, decide_true, Bool.toNat_true]
        omega
  | succ position ih =>
      rw [weight_halves (mask ^^^ single (position + 1)), weight_halves mask]
      have doubled : single (position + 1) = 2 * single position := Nat.pow_succ'
      have half : (mask ^^^ single (position + 1)) / 2 = mask / 2 ^^^ single position := by
        rw [Nat.xor_div_two, doubled, Nat.mul_div_cancel_left _ (by decide)]
      have low : (mask ^^^ single (position + 1)) % 2 = mask % 2 := by
        rw [Nat.xor_mod_two_eq, doubled]
        omega
      rw [half, low, Nat.testBit_succ]
      have rest := ih (mask / 2)
      omega

theorem weight_toggle (condition : Bool) (position mask : Nat) :
    weight (toggle condition position mask) + 2 * (condition && mask.testBit position).toNat =
      weight mask + condition.toNat := by
  cases condition
  · rfl
  · exact weight_xor_single position mask

theorem toggle_and (condition : Bool) (position first second : Nat) :
    toggle condition position first &&& second =
      toggle (condition && second.testBit position) position (first &&& second) := by
  apply Nat.eq_of_testBit_eq
  intro other
  rw [Nat.testBit_and, test_bit_toggle, test_bit_toggle, Nat.testBit_and]
  by_cases own : position = other
  · subst own
    cases first.testBit position <;> cases second.testBit position <;> cases condition <;> simp
  · simp [own]

theorem and_toggle (condition : Bool) (position first second : Nat) :
    first &&& toggle condition position second =
      toggle (condition && first.testBit position) position (first &&& second) := by
  rw [Nat.and_comm, toggle_and, Nat.and_comm]

theorem toggle_true_xor (position first second : Nat) :
    toggle true position (first ^^^ second) = toggle true position first ^^^ second :=
  toggle_xor true false position first second

theorem toggle_and_toggle {position first second : Nat}
    (differ : (first.testBit position != second.testBit position) = true) :
    toggle true position first &&& toggle true position second = first &&& second := by
  apply Nat.eq_of_testBit_eq
  intro other
  rw [Nat.testBit_and, Nat.testBit_and, test_bit_toggle, test_bit_toggle]
  by_cases own : position = other
  · subst own
    revert differ
    cases first.testBit position <;> cases second.testBit position <;> simp
  · simp [own]

theorem weight_swap {first second : Nat} (apart : first ≠ second) (mask : Nat) :
    weight (swap first second mask) = weight mask := by
  have inner := weight_toggle (mask.testBit first != mask.testBit second) first mask
  have outer := weight_toggle (mask.testBit first != mask.testBit second) second
    (toggle (mask.testBit first != mask.testBit second) first mask)
  rw [← swap_eq_toggle, test_bit_toggle, decide_eq_false apart, Bool.and_false, Bool.bne_false]
    at outer
  cases low : mask.testBit first <;> cases high : mask.testBit second <;>
    simp [low, high] at inner outer <;> omega

theorem swap_and (first second mask other : Nat) :
    swap first second mask &&& swap first second other = swap first second (mask &&& other) := by
  apply Nat.eq_of_testBit_eq
  intro position
  simp only [Nat.testBit_and, test_bit_swap]
  split
  · rfl
  · split <;> rfl

end StabilizerPrep.Mask

namespace StabilizerPrep

set_option autoImplicit false

open Mask

abbrev State (width : Nat) : Type :=
  BitVec width →₀ GaussianInt

abbrev Operator (width : Nat) : Type :=
  Module.End GaussianInt (State width)

noncomputable def State.basis (width mask : Nat) : State width :=
  .single (.ofNat width mask) 1

def imaginary : GaussianInt :=
  ⟨0, 1⟩

noncomputable def Operator.ofImages {width : Nat} (images : Nat → State width) : Operator width :=
  Finsupp.linearCombination GaussianInt fun string : BitVec width => images string.toNat

/-- A Pauli operator on bit strings: `i^k (-1)^|z ∧ b|` times the string `b ⊕ x`. -/
noncomputable def Pauli.operator (width : Nat) (pauli : Pauli) : Operator width :=
  .ofImages fun mask => (imaginary ^ pauli.phase * (-1) ^ Mask.weight (pauli.z &&& mask)) •
    .basis width (mask ^^^ pauli.x)

/-- An instruction on bit strings. The Hadamard gate is not normalised.
Operands that do not fit the gate do nothing. -/
noncomputable def Instruction.operator (width : Nat) (instruction : Instruction) :
    Operator width :=
  .ofImages fun mask => match instruction.gate, instruction.qubits with
  | .h, [qubit] =>
      .basis width (toggle (mask.testBit qubit) qubit mask) +
        (-1 : GaussianInt) ^ (mask.testBit qubit).toNat •
          .basis width (toggle (!mask.testBit qubit) qubit mask)
  | .s, [qubit] => imaginary ^ (mask.testBit qubit).toNat • .basis width mask
  | .sdg, [qubit] => (-imaginary) ^ (mask.testBit qubit).toNat • .basis width mask
  | .x, [qubit] => .basis width (toggle true qubit mask)
  | .y, [qubit] =>
      (imaginary * (-1) ^ (mask.testBit qubit).toNat) • .basis width (toggle true qubit mask)
  | .z, [qubit] => (-1 : GaussianInt) ^ (mask.testBit qubit).toNat • .basis width mask
  | .cx, [control, target] => .basis width (toggle (mask.testBit control) target mask)
  | .cz, [first, second] =>
      (-1 : GaussianInt) ^ (mask.testBit first && mask.testBit second).toNat • .basis width mask
  | .swap, [first, second] => .basis width (swap first second mask)
  | _, _ => .basis width mask

noncomputable def Instruction.operatorAll (width : Nat) : List Instruction → Operator width
  | [] => 1
  | instruction :: later => operatorAll width later * instruction.operator width

noncomputable def Circuit.operator (circuit : Circuit) : Operator circuit.width :=
  Instruction.operatorAll circuit.width circuit.instructions

namespace Operator

variable {width : Nat}

theorem of_images_basis (images : Nat → State width) {mask : Nat} (bound : mask < 2 ^ width) :
    ofImages images (.basis width mask) = images mask := by
  rw [ofImages, State.basis, Finsupp.linearCombination_single, one_smul, BitVec.toNat_ofNat,
    Nat.mod_eq_of_lt (show mask < 2 ^ width from bound)]

theorem ext_basis {first second : Operator width}
    (same : ∀ mask < 2 ^ width, first (.basis width mask) = second (.basis width mask)) :
    first = second := by
  apply Finsupp.lhom_ext'
  intro string
  apply LinearMap.ext_ring
  have agree := same string.toNat string.isLt
  rw [State.basis, BitVec.ofNat_toNat, BitVec.setWidth_eq] at agree
  exact agree

end Operator

theorem imaginary_pow_eq {first second : Nat} (same : first % 4 = second % 4) :
    imaginary ^ first = imaginary ^ second := by
  have fourth : imaginary ^ 4 = 1 := by decide
  rw [pow_eq_pow_mod first fourth, same, ← pow_eq_pow_mod second fourth]

theorem imaginary_pow_not (condition : Bool) :
    imaginary ^ (2 * (!condition).toNat) = -imaginary ^ (2 * condition.toNat) := by
  cases condition <;> decide

theorem imaginary_pow_mul_self (condition : Bool) :
    imaginary ^ (2 * condition.toNat) * imaginary ^ (2 * condition.toNat) = 1 := by
  cases condition <;> decide

theorem two_mul_bne (first second : Bool) :
    2 * (first != second).toNat + 4 * (first && second).toNat =
      2 * first.toNat + 2 * second.toNat := by
  cases first <;> cases second <;> rfl

theorem neg_one_pow_eq (exponent : Nat) :
    (-1 : GaussianInt) ^ exponent = imaginary ^ (2 * exponent) := by
  have square : (-1 : GaussianInt) = imaginary ^ 2 := by decide
  rw [square, ← pow_mul]

theorem neg_imaginary_pow_eq (exponent : Nat) :
    (-imaginary) ^ exponent = imaginary ^ (3 * exponent) := by
  have cube : -imaginary = imaginary ^ 3 := by decide
  rw [cube, ← pow_mul]

namespace Generator

/-- The exponent of the imaginary unit in front of the image of a bit
string. -/
def exponent (generator : Generator) (mask : Nat) : Nat :=
  weight (generator.x &&& generator.z) + 2 * generator.negative.toNat +
    2 * (dot generator.z mask).toNat

noncomputable def operator (width : Nat) (generator : Generator) : Operator width :=
  (generator.toPauli width).operator width

theorem operator_basis {width mask : Nat} (generator : Generator)
    (bound : mask < 2 ^ width) :
    generator.operator width (.basis width mask) =
      imaginary ^ generator.exponent mask • .basis width (mask ^^^ generator.x) := by
  rw [operator, Pauli.operator, Operator.of_images_basis _ bound, neg_one_pow_eq, ← pow_add]
  congr 1
  apply imaginary_pow_eq
  simp only [toPauli, Pauli.ofMasks, exponent, dot, parity]
  rcases Nat.mod_two_eq_zero_or_one (weight (generator.z &&& mask)) with even | odd
  · rw [even]
    simp
    omega
  · rw [odd]
    simp
    omega

end Generator

namespace Operator

variable {width : Nat} {operator : Operator width} {before after : Generator}

structure Monomial (operator : Operator width) (phase move : Nat → Nat) : Prop where
  within : ∀ mask < 2 ^ width, move mask < 2 ^ width
  images : ∀ mask < 2 ^ width,
    operator (.basis width mask) = imaginary ^ phase mask • .basis width (move mask)

/-- Conjugation by the operator sends one generator to the other. -/
def Conjugates (operator : Operator width) (before after : Generator) : Prop :=
  operator * before.operator width = after.operator width * operator

theorem Monomial.conjugates {phase move : Nat → Nat} (monomial : Monomial operator phase move)
    (bound : before.x < 2 ^ width)
    (moves : ∀ mask, move (mask ^^^ before.x) = move mask ^^^ after.x)
    (phases : ∀ mask, (before.exponent mask + phase (mask ^^^ before.x)) % 4 =
      (phase mask + after.exponent (move mask)) % 4) :
    Conjugates operator before after := by
  apply ext_basis
  intro mask inside
  rw [Module.End.mul_apply, Module.End.mul_apply, Generator.operator_basis _ inside,
    monomial.images mask inside, map_smul, map_smul,
    monomial.images _ (Nat.xor_lt_two_pow inside bound),
    Generator.operator_basis _ (monomial.within mask inside), smul_smul, smul_smul, ← pow_add,
    ← pow_add, moves mask, imaginary_pow_eq (phases mask)]

theorem Conjugates.trans {second : Operator width} {last : Generator}
    (first : Conjugates operator before after) (later : Conjugates second after last) :
    Conjugates (second * operator) before last := by
  rw [Conjugates, mul_assoc, first, ← mul_assoc, later, mul_assoc]

theorem Conjugates.of_two_smul
    (doubled : Conjugates ((2 : GaussianInt) • operator) before after) :
    Conjugates operator before after := by
  rw [Conjugates, smul_mul_assoc, mul_smul_comm] at doubled
  exact smul_right_injective _ two_ne_zero doubled

end Operator

namespace Instruction

open Operator

variable {width : Nat} {before : Generator}

theorem monomial_s {qubit : Nat} :
    Monomial ((Instruction.mk .s [qubit]).operator width)
      (fun mask => (mask.testBit qubit).toNat) id where
  within _ inside := inside
  images _ inside := of_images_basis _ inside

theorem monomial_sdg {qubit : Nat} :
    Monomial ((Instruction.mk .sdg [qubit]).operator width)
      (fun mask => 3 * (mask.testBit qubit).toNat) id where
  within _ inside := inside
  images mask inside := by
    refine (of_images_basis _ inside).trans ?_
    simp only [neg_imaginary_pow_eq, id]

theorem monomial_x {qubit : Nat} (inside : qubit < width) :
    Monomial ((Instruction.mk .x [qubit]).operator width) (fun _ => 0)
      (toggle true qubit) where
  within _ bound := toggle_lt inside bound
  images mask bound := by
    refine (of_images_basis _ bound).trans ?_
    rw [pow_zero, one_smul]

theorem monomial_y {qubit : Nat} (inside : qubit < width) :
    Monomial ((Instruction.mk .y [qubit]).operator width)
      (fun mask => 1 + 2 * (mask.testBit qubit).toNat) (toggle true qubit) where
  within _ bound := toggle_lt inside bound
  images mask bound := by
    refine (of_images_basis _ bound).trans ?_
    simp only [neg_one_pow_eq, pow_add, pow_one]

theorem monomial_z {qubit : Nat} :
    Monomial ((Instruction.mk .z [qubit]).operator width)
      (fun mask => 2 * (mask.testBit qubit).toNat) id where
  within _ inside := inside
  images mask inside := by
    refine (of_images_basis _ inside).trans ?_
    simp only [neg_one_pow_eq, id]

theorem monomial_cx {control target : Nat} (inside : target < width) :
    Monomial ((Instruction.mk .cx [control, target]).operator width) (fun _ => 0)
      (fun mask => toggle (mask.testBit control) target mask) where
  within _ bound := toggle_lt inside bound
  images mask bound := by
    refine (of_images_basis _ bound).trans ?_
    simp only [pow_zero, one_smul]

theorem monomial_cz {first second : Nat} :
    Monomial ((Instruction.mk .cz [first, second]).operator width)
      (fun mask => 2 * (mask.testBit first && mask.testBit second).toNat) id where
  within _ inside := inside
  images mask inside := by
    refine (of_images_basis _ inside).trans ?_
    simp only [neg_one_pow_eq, id]

theorem monomial_swap {first second : Nat} (firstInside : first < width)
    (secondInside : second < width) :
    Monomial ((Instruction.mk .swap [first, second]).operator width) (fun _ => 0)
      (swap first second) where
  within _ bound := swap_lt firstInside secondInside bound
  images mask bound := by
    refine (of_images_basis _ bound).trans ?_
    simp only [pow_zero, one_smul]

theorem conjugates_s {qubit : Nat} (bound : before.x < 2 ^ width) :
    Conjugates ((Instruction.mk .s [qubit]).operator width) before (before.phase qubit) := by
  apply monomial_s.conjugates bound
  · intro mask
    rfl
  · intro mask
    have weights := weight_toggle (before.x.testBit qubit) qubit (before.x &&& before.z)
    simp only [Generator.exponent, Generator.phase, id, Nat.testBit_xor, Nat.testBit_and,
      and_toggle, Bool.and_self, dot_toggle_left] at weights ⊢
    revert weights
    cases before.x.testBit qubit <;> cases before.z.testBit qubit <;> cases mask.testBit qubit <;>
      cases before.negative <;> cases dot before.z mask <;> simp <;> omega

theorem conjugates_sdg {qubit : Nat} (bound : before.x < 2 ^ width) :
    Conjugates ((Instruction.mk .sdg [qubit]).operator width) before
      (before.phaseInverse qubit) := by
  apply monomial_sdg.conjugates bound
  · intro mask
    rfl
  · intro mask
    have weights := weight_toggle (before.x.testBit qubit) qubit (before.x &&& before.z)
    simp only [Generator.exponent, Generator.phaseInverse, id, Nat.testBit_xor, Nat.testBit_and,
      and_toggle, Bool.and_self, dot_toggle_left] at weights ⊢
    revert weights
    cases before.x.testBit qubit <;> cases before.z.testBit qubit <;> cases mask.testBit qubit <;>
      cases before.negative <;> cases dot before.z mask <;> simp <;> omega

theorem conjugates_x {qubit : Nat} (inside : qubit < width)
    (bound : before.x < 2 ^ width) :
    Conjugates ((Instruction.mk .x [qubit]).operator width) before
      (before.flip (before.z.testBit qubit)) := by
  apply (monomial_x inside).conjugates bound
  · intro mask
    exact toggle_true_xor qubit mask before.x
  · intro mask
    simp only [Generator.exponent, Generator.flip, dot_toggle_right, Bool.true_and]
    cases before.z.testBit qubit <;> cases before.negative <;> cases dot before.z mask <;>
      simp <;> omega

theorem conjugates_y {qubit : Nat} (inside : qubit < width)
    (bound : before.x < 2 ^ width) :
    Conjugates ((Instruction.mk .y [qubit]).operator width) before
      (before.flip (before.x.testBit qubit != before.z.testBit qubit)) := by
  apply (monomial_y inside).conjugates bound
  · intro mask
    exact toggle_true_xor qubit mask before.x
  · intro mask
    simp only [Generator.exponent, Generator.flip, Nat.testBit_xor, dot_toggle_right,
      Bool.true_and]
    cases before.x.testBit qubit <;> cases before.z.testBit qubit <;> cases mask.testBit qubit <;>
      cases before.negative <;> cases dot before.z mask <;> simp <;> omega

theorem conjugates_z {qubit : Nat} (bound : before.x < 2 ^ width) :
    Conjugates ((Instruction.mk .z [qubit]).operator width) before
      (before.flip (before.x.testBit qubit)) := by
  apply monomial_z.conjugates bound
  · intro mask
    rfl
  · intro mask
    simp only [Generator.exponent, Generator.flip, Nat.testBit_xor, id]
    cases before.x.testBit qubit <;> cases mask.testBit qubit <;> cases before.negative <;>
      simp <;> omega

theorem conjugates_cx {control target : Nat} (inside : target < width) (apart : control ≠ target)
    (bound : before.x < 2 ^ width) :
    Conjugates ((Instruction.mk .cx [control, target]).operator width) before
      (before.controlledX control target) := by
  apply (monomial_cx inside).conjugates bound
  · intro mask
    simp only [Generator.controlledX, Nat.testBit_xor, toggle_xor]
  · intro mask
    have paired : dot (toggle (before.z.testBit target) control before.z)
        (toggle (mask.testBit control) target mask) = dot before.z mask := by
      rw [dot_toggle_left, dot_toggle_right, test_bit_toggle, decide_eq_false apart.symm,
        Bool.and_false, Bool.bne_false, Bool.and_comm]
      cases dot before.z mask <;> cases before.z.testBit target && mask.testBit control <;> rfl
    have signs := two_mul_bne before.negative (before.x.testBit control &&
      before.z.testBit target && (before.x.testBit target == before.z.testBit control))
    -- The common members change on the target and on the control.
    have onTarget := weight_toggle (before.x.testBit control && before.z.testBit target) target
      (before.x &&& before.z)
    have onControl := weight_toggle (before.z.testBit target && before.x.testBit control) control
      (toggle (before.x.testBit control && before.z.testBit target) target
        (before.x &&& before.z))
    simp only [Generator.exponent, Generator.controlledX, paired, toggle_and, and_toggle,
      test_bit_toggle, Nat.testBit_and, decide_eq_false apart.symm, Bool.and_false,
      Bool.bne_false] at onTarget onControl ⊢
    revert signs onTarget onControl
    cases before.x.testBit control <;> cases before.z.testBit target <;>
      cases before.x.testBit target <;> cases before.z.testBit control <;> simp <;> omega

theorem conjugates_swap {first second : Nat} (firstInside : first < width)
    (secondInside : second < width) (apart : first ≠ second)
    (bound : before.x < 2 ^ width) :
    Conjugates ((Instruction.mk .swap [first, second]).operator width) before
      (before.exchange first second) := by
  apply (monomial_swap firstInside secondInside).conjugates bound
  · intro mask
    exact swap_xor first second mask before.x
  · intro mask
    simp only [Generator.exponent, Generator.exchange, swap_and, weight_swap apart,
      dot_swap apart]
    omega

theorem operator_h {qubit mask : Nat} (bound : mask < 2 ^ width) :
    (Instruction.mk .h [qubit]).operator width (.basis width mask) =
      imaginary ^ (2 * (mask.testBit qubit).toNat) • State.basis width mask +
        .basis width (toggle true qubit mask) := by
  refine (of_images_basis _ bound).trans ?_
  cases set : mask.testBit qubit
  · simp only [set, toggle, Bool.not_false, if_true, if_neg Bool.false_ne_true, Bool.toNat_false,
      pow_zero, Nat.mul_zero, one_smul]
  · simp only [set, toggle, Bool.not_true, if_true, if_neg Bool.false_ne_true, neg_one_pow_eq]
    exact add_comm _ _

/-- Where the two masks agree on the qubit, the Hadamard gate keeps them.
Elsewhere both are toggled, and the two terms of the gate trade places. -/
theorem conjugates_h {qubit : Nat} (inside : qubit < width) (bound : before.x < 2 ^ width) :
    Conjugates ((Instruction.mk .h [qubit]).operator width) before (before.hadamard qubit) := by
  apply ext_basis
  intro mask within
  have flipped : toggle true qubit mask < 2 ^ width := toggle_lt inside within
  rw [Module.End.mul_apply, Module.End.mul_apply, Generator.operator_basis _ within, map_smul,
    operator_h (Nat.xor_lt_two_pow within bound), operator_h within, map_add, map_smul,
    Generator.operator_basis _ within, Generator.operator_basis _ flipped, smul_add, smul_smul,
    smul_smul, ← pow_add, ← pow_add, ← toggle_true_xor]
  cases differ : before.x.testBit qubit != before.z.testBit qubit
  · have same : before.z.testBit qubit = before.x.testBit qubit :=
      (bne_eq_false_iff_eq.1 differ).symm
    have kept : before.hadamard qubit = before.flip (before.x.testBit qubit) := by
      rw [Generator.hadamard, differ, same, Bool.and_self]
      rfl
    have signs := two_mul_bne before.negative (before.x.testBit qubit)
    have stay := two_mul_bne (mask.testBit qubit) (before.x.testBit qubit)
    have turn := two_mul_bne (dot before.z mask) (before.x.testBit qubit)
    rw [kept]
    congr 2
    · apply imaginary_pow_eq
      simp only [Generator.exponent, Generator.flip, Nat.testBit_xor, ← Bool.bne_eq_xor]
      omega
    · apply imaginary_pow_eq
      simp only [Generator.exponent, Generator.flip, dot_toggle_right, same, Bool.true_and]
      omega
  · have toggled : before.hadamard qubit =
        ⟨toggle true qubit before.x, toggle true qubit before.z, before.negative⟩ := by
      have single : (before.x.testBit qubit && before.z.testBit qubit) = false := by
        revert differ
        cases before.x.testBit qubit <;> cases before.z.testBit qubit <;> simp
      simp only [Generator.hadamard, differ, single, Bool.bne_false]
    have moved : mask ^^^ toggle true qubit before.x = toggle true qubit (mask ^^^ before.x) := by
      rw [Nat.xor_comm, ← toggle_true_xor, Nat.xor_comm]
    rw [toggled, moved, toggle_toggle, add_comm]
    congr 2
    · apply imaginary_pow_eq
      have turn := two_mul_bne (dot before.z mask) (mask.testBit qubit)
      simp only [Generator.exponent, toggle_and_toggle differ, dot_toggle_left, Bool.true_and]
      omega
    · apply imaginary_pow_eq
      simp only [Generator.exponent, toggle_and_toggle differ, dot_toggle_left, dot_toggle_right,
        test_bit_toggle, Nat.testBit_xor, decide_true, Bool.and_true, Bool.true_and]
      revert differ
      cases before.x.testBit qubit <;> cases before.z.testBit qubit <;>
        cases mask.testBit qubit <;> cases dot before.z mask <;> simp <;> omega

theorem operator_cx {control target mask : Nat} (bound : mask < 2 ^ width) :
    (Instruction.mk .cx [control, target]).operator width (.basis width mask) =
      .basis width (toggle (mask.testBit control) target mask) :=
  of_images_basis _ bound

theorem operator_h_mul_self {qubit : Nat} (inside : qubit < width) :
    (Instruction.mk .h [qubit]).operator width * (Instruction.mk .h [qubit]).operator width =
      (2 : GaussianInt) • 1 := by
  apply ext_basis
  intro mask within
  have flipped : toggle true qubit mask < 2 ^ width := toggle_lt inside within
  have opposite : (toggle true qubit mask).testBit qubit = !mask.testBit qubit := by
    simp [test_bit_toggle]
  rw [Module.End.mul_apply, operator_h within, map_add, map_smul, operator_h within,
    operator_h flipped, toggle_toggle, opposite, imaginary_pow_not, smul_add, smul_smul,
    imaginary_pow_mul_self]
  change _ = (2 : GaussianInt) • State.basis width mask
  module

theorem operator_cz {first second : Nat} (inside : second < width) (apart : first ≠ second) :
    (Instruction.mk .h [second]).operator width *
        ((Instruction.mk .cx [first, second]).operator width *
          (Instruction.mk .h [second]).operator width) =
      (2 : GaussianInt) • (Instruction.mk .cz [first, second]).operator width := by
  apply ext_basis
  intro mask within
  have flipped : toggle true second mask < 2 ^ width := toggle_lt inside within
  have opposite : (toggle true second mask).testBit second = !mask.testBit second := by
    simp [test_bit_toggle]
  have control : (toggle true second mask).testBit first = mask.testBit first := by
    simp [test_bit_toggle, apart.symm]
  rw [Module.End.mul_apply, Module.End.mul_apply, LinearMap.smul_apply, monomial_cz.images _ within,
    operator_h within, map_add, map_smul, operator_cx within, operator_cx flipped, control,
    map_add, map_smul]
  cases mask.testBit first
  · change imaginary ^ _ • (Instruction.mk .h [second]).operator width (.basis width mask) +
      (Instruction.mk .h [second]).operator width (.basis width (toggle true second mask)) =
        (2 : GaussianInt) • (1 : GaussianInt) • State.basis width mask
    rw [operator_h within, operator_h flipped, toggle_toggle, opposite, imaginary_pow_not,
      smul_add, smul_smul, imaginary_pow_mul_self]
    module
  · rw [toggle_toggle, operator_h within, operator_h flipped, toggle_toggle, opposite,
      imaginary_pow_not, smul_add, smul_smul, mul_neg, imaginary_pow_mul_self, Bool.true_and, id]
    module

theorem conjugates_cz {first second : Nat} (inside : second < width) (apart : first ≠ second)
    (bound : before.x < 2 ^ width) :
    Conjugates ((Instruction.mk .cz [first, second]).operator width) before
      (before.controlledZ first second) := by
  have turned : (before.hadamard second).x < 2 ^ width := toggle_lt inside bound
  have spread : ((before.hadamard second).controlledX first second).x < 2 ^ width :=
    toggle_lt inside turned
  have whole := ((conjugates_h inside bound).trans (conjugates_cx inside apart turned)).trans
    (conjugates_h inside spread)
  rw [operator_cz inside apart] at whole
  exact whole.of_two_smul

/-- Conjugation by a gate is what the simulation does to a generator. -/
theorem conjugates_conjugate {instruction : Instruction}
    (fits : instruction.checkWithin width = .ok ()) (bound : before.x < 2 ^ width) :
    Conjugates (instruction.operator width) before (before.conjugate instruction) := by
  obtain ⟨gate, qubits⟩ := instruction
  obtain ⟨qubit, inside, rfl, arity⟩ |
      ⟨first, firstInside, second, secondInside, apart, rfl, arity⟩ :=
    cases_of_check_within fits
  · cases gate with
    | h => exact conjugates_h inside bound
    | s => exact conjugates_s bound
    | sdg => exact conjugates_sdg bound
    | x => exact conjugates_x inside bound
    | y => exact conjugates_y inside bound
    | z => exact conjugates_z bound
    | cx => cases arity
    | cz => cases arity
    | swap => cases arity
  · cases gate with
    | h => cases arity
    | s => cases arity
    | sdg => cases arity
    | x => cases arity
    | y => cases arity
    | z => cases arity
    | cx => exact conjugates_cx secondInside apart bound
    | cz => exact conjugates_cz secondInside apart bound
    | swap => exact conjugates_swap firstInside secondInside apart bound

end Instruction

namespace Operator

variable {width : Nat} {operator back : Operator width}

theorem Monomial.mul_eq_one {phase move phaseBack moveBack : Nat → Nat}
    (monomial : Monomial operator phase move) (later : Monomial back phaseBack moveBack)
    (moves : ∀ mask, moveBack (move mask) = mask)
    (phases : ∀ mask, (phase mask + phaseBack (move mask)) % 4 = 0) : back * operator = 1 := by
  apply ext_basis
  intro mask inside
  rw [Module.End.mul_apply, monomial.images mask inside, map_smul,
    later.images _ (monomial.within mask inside), smul_smul, ← pow_add, moves mask,
    imaginary_pow_eq (show _ % 4 = 0 % 4 from phases mask), pow_zero, one_smul]
  rfl

theorem injective_of_mul_eq {scale : GaussianInt} (nonzero : scale ≠ 0)
    (undone : back * operator = scale • 1) : Function.Injective operator := by
  intro first second same
  have scaled : scale • first = scale • second := by
    have applied := congrArg back same
    rwa [← Module.End.mul_apply, ← Module.End.mul_apply, undone] at applied
  exact smul_right_injective _ nonzero scaled

end Operator

namespace Instruction

open Operator

variable {width : Nat}

/-- The inverse of an instruction undoes it, up to a factor for the Hadamard
gate. -/
theorem exists_inverse_mul {instruction : Instruction}
    (fits : instruction.checkWithin width = .ok ()) :
    ∃ scale : GaussianInt, scale ≠ 0 ∧
      instruction.inverse.operator width * instruction.operator width = scale • 1 := by
  have unit : ∀ {operator : Operator width}, operator = 1 →
      ∃ scale : GaussianInt, scale ≠ 0 ∧ operator = scale • 1 :=
    fun same => ⟨1, one_ne_zero, same.trans (one_smul _ _).symm⟩
  have toggled : ∀ qubit mask, (toggle true qubit mask).testBit qubit = !mask.testBit qubit := by
    simp [test_bit_toggle]
  obtain ⟨gate, qubits⟩ := instruction
  obtain ⟨qubit, inside, rfl, arity⟩ |
      ⟨first, firstInside, second, secondInside, apart, rfl, arity⟩ :=
    cases_of_check_within fits
  · cases gate with
    | h => exact ⟨2, two_ne_zero, operator_h_mul_self inside⟩
    | s =>
        refine unit (monomial_s.mul_eq_one monomial_sdg (fun _ => rfl) fun mask => ?_)
        simp only [id]
        omega
    | sdg =>
        refine unit (monomial_sdg.mul_eq_one monomial_s (fun _ => rfl) fun mask => ?_)
        simp only [id]
        omega
    | x =>
        exact unit ((monomial_x inside).mul_eq_one (monomial_x inside)
          (toggle_toggle true qubit) fun _ => rfl)
    | y =>
        refine unit ((monomial_y inside).mul_eq_one (monomial_y inside)
          (toggle_toggle true qubit) fun mask => ?_)
        rw [toggled]
        cases mask.testBit qubit <;> rfl
    | z =>
        refine unit (monomial_z.mul_eq_one monomial_z (fun _ => rfl) fun mask => ?_)
        simp only [id]
        omega
    | cx => cases arity
    | cz => cases arity
    | swap => cases arity
  · cases gate with
    | h => cases arity
    | s => cases arity
    | sdg => cases arity
    | x => cases arity
    | y => cases arity
    | z => cases arity
    | cx =>
        refine unit ((monomial_cx secondInside).mul_eq_one (monomial_cx secondInside)
          (fun mask => ?_) fun _ => rfl)
        simp only [test_bit_toggle, decide_eq_false apart.symm, Bool.and_false, Bool.bne_false,
          toggle_toggle]
    | cz =>
        refine unit (monomial_cz.mul_eq_one monomial_cz (fun _ => rfl) fun mask => ?_)
        simp only [id]
        omega
    | swap =>
        exact unit ((monomial_swap firstInside secondInside).mul_eq_one
          (monomial_swap firstInside secondInside) (swap_swap first second) fun _ => rfl)

variable {instructions : List Instruction}
    (fit : ∀ instruction ∈ instructions, instruction.checkWithin width = .ok ())

include fit

theorem injective_operator_all : Function.Injective (operatorAll width instructions) := by
  induction instructions with
  | nil => exact Function.injective_id
  | cons instruction later ih =>
      obtain ⟨scale, nonzero, undone⟩ := exists_inverse_mul (fit instruction List.mem_cons_self)
      have rest := ih fun other member => fit other (List.mem_cons_of_mem _ member)
      exact rest.comp (injective_of_mul_eq nonzero undone)

/-- What the simulation makes of a generator is its conjugate by the whole
circuit. -/
theorem conjugates_follow (generator : Generator)
    (bound : Within width (generator.x, generator.z)) :
    Conjugates (operatorAll width instructions) generator (generator.follow instructions) := by
  induction instructions generalizing generator with
  | nil =>
      change 1 * _ = _ * 1
      rw [one_mul, mul_one]
      rfl
  | cons instruction later ih =>
      have fits := fit instruction List.mem_cons_self
      have within := (isometry_move fits).within _ bound
      rw [← conjugate_masks] at within
      have rest := ih (fun other member => fit other (List.mem_cons_of_mem _ member))
        (generator.conjugate instruction) within
      exact (conjugates_conjugate fits bound.1).trans rest

end Instruction

namespace Circuit

/-- The simulation of a circuit is exact, signs included: conjugation by the
operator of the circuit sends the operators `Z` to the simulated generators,
which therefore stabilize the prepared state. -/
theorem simulation_exact (circuit : Circuit) (wellFormed : circuit.WellFormed)
    (small : circuit.width ≤ 64) :
    ∃ tableau, Tableau.ofCircuit circuit = .ok tableau ∧
      tableau.paulis.length = circuit.width ∧
      circuit.operator (.basis circuit.width 0) ≠ 0 ∧
      ∀ qubit < circuit.width, ∃ pauli, tableau.paulis[qubit]? = some pauli ∧
        circuit.operator *
          (Pauli.mk circuit.width 0 (single qubit) 0 (by decide)).operator circuit.width =
          pauli.operator circuit.width * circuit.operator ∧
        pauli.operator circuit.width (circuit.operator (.basis circuit.width 0)) =
          circuit.operator (.basis circuit.width 0) := by
  refine ⟨_, simulate_eq small, by simp [Tableau.paulis, images], ?_, fun qubit inside => ?_⟩
  · intro zero
    have none := Instruction.injective_operator_all wellFormed (zero.trans (map_zero _).symm)
    rw [State.basis, Finsupp.single_eq_zero] at none
    exact one_ne_zero none
  · let start : Generator := ⟨0, single qubit, false⟩
    have within : Within circuit.width (start.x, start.z) :=
      ⟨Nat.two_pow_pos _, single_lt inside⟩
    have conjugated := Instruction.conjugates_follow wellFormed start within
    have initial : start.operator circuit.width =
        (Pauli.mk circuit.width 0 (single qubit) 0 (by decide)).operator circuit.width := by
      have same : start.toPauli circuit.width =
          ⟨circuit.width, 0, single qubit, 0, by decide⟩ := by
        ext <;> simp [start, Generator.toPauli, Pauli.ofMasks, weight_zero]
      rw [Generator.operator, same]
    have fixed : start.operator circuit.width (.basis circuit.width 0) =
        .basis circuit.width 0 := by
      rw [Generator.operator_basis _ (Nat.two_pow_pos _)]
      simp [start, Generator.exponent, weight_zero]
    refine ⟨(start.follow circuit.instructions).toPauli circuit.width, ?_, ?_, ?_⟩
    · simp [Tableau.paulis, images, inside, start]
    · rw [← initial]
      exact conjugated
    · have applied := LinearMap.congr_fun conjugated (State.basis circuit.width 0)
      rw [Module.End.mul_apply, Module.End.mul_apply, fixed] at applied
      exact applied.symm

/-- A turned qubit has a negative generator, which a controlled `X` spreads. -/
theorem simulation_exact_pair :
    let circuit : Circuit := ⟨2, [⟨.h, [0]⟩, ⟨.s, [0]⟩, ⟨.h, [0]⟩, ⟨.cx, [0, 1]⟩]⟩
    circuit.WellFormed ∧ circuit.width ≤ 64 ∧
      circuit.operator * (Pauli.mk 2 0 1 0 (by decide)).operator 2 =
        (Pauli.mk 2 3 1 3 (by decide)).operator 2 * circuit.operator ∧
      (Pauli.mk 2 3 1 3 (by decide)).operator 2 (circuit.operator (.basis 2 0)) =
        circuit.operator (.basis 2 0) := by
  intro circuit
  have wellFormed : circuit.WellFormed := by
    simp only [WellFormed, circuit, List.forall_mem_cons]
    exact ⟨rfl, rfl, rfl, rfl, List.forall_mem_nil _⟩
  have small : circuit.width ≤ 64 := by decide
  obtain ⟨tableau, simulated, -, -, each⟩ := simulation_exact circuit wellFormed small
  obtain ⟨pauli, listed, conjugated, fixed⟩ := each 0 (by decide)
  have evaluated : Tableau.ofCircuit circuit = .ok ⟨2, [⟨3, 1, true⟩, ⟨0, 3, false⟩]⟩ := rfl
  obtain rfl := Except.ok.inj (simulated.symm.trans evaluated)
  obtain rfl : ⟨2, 3, 1, 3, by decide⟩ = pauli := Option.some.inj listed
  exact ⟨wellFormed, small, conjugated, fixed⟩

end Circuit

end StabilizerPrep
