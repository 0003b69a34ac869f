import StabilizerPrep.Layer.Basic
import StabilizerPrep.Proofs.Bits

/-!
# The action of layers on operators

A layer sends the two masks of an operator to two other masks, qubit by qubit.
The action is additive, it keeps the qubits on which the operator is the
identity, it does not change which operators commute, and it is undone by the
layer of inverse Cliffords. Two layers after each other are a layer again.
-/

namespace StabilizerPrep.LocalClifford

set_option autoImplicit false

/-- The factor that conjugation makes of a factor with the given bits. -/
def act (clifford : LocalClifford) (x z : Bool) : Bool × Bool :=
  clifford.symplectic.act x z

def inverse : LocalClifford → LocalClifford
  | .hs => .sh
  | .sh => .hs
  | clifford => clifford

/-- The Clifford that applies `first` and then `second`. Its rows are the
images of the two bits. -/
def after (second first : LocalClifford) : LocalClifford :=
  let x := second.act first.symplectic.xx first.symplectic.zx
  let z := second.act first.symplectic.xz first.symplectic.zz
  (ofSymplectic? ⟨x.1, z.1, x.2, z.2⟩).getD .i

theorem act_inverse (clifford : LocalClifford) (x z : Bool) :
    clifford.inverse.act (clifford.act x z).1 (clifford.act x z).2 = (x, z) := by
  cases clifford <;> revert x z <;> decide

theorem act_after (second first : LocalClifford) (x z : Bool) :
    (second.after first).act x z = second.act (first.act x z).1 (first.act x z).2 := by
  cases second <;> cases first <;> revert x z <;> decide

theorem act_xor (clifford : LocalClifford) (x z otherX otherZ : Bool) :
    clifford.act (x != otherX) (z != otherZ) =
      ((clifford.act x z).1 != (clifford.act otherX otherZ).1,
        (clifford.act x z).2 != (clifford.act otherX otherZ).2) := by
  cases clifford <;> revert x z otherX otherZ <;> decide

theorem form_act (clifford : LocalClifford) (x z otherX otherZ : Bool) :
    (((clifford.act x z).1 && (clifford.act otherX otherZ).2) !=
        ((clifford.act x z).2 && (clifford.act otherX otherZ).1)) =
      ((x && otherZ) != (z && otherX)) := by
  cases clifford <;> revert x z otherX otherZ <;> decide

theorem or_act (clifford : LocalClifford) (x z : Bool) :
    ((clifford.act x z).1 || (clifford.act x z).2) = (x || z) := by
  cases clifford <;> revert x z <;> decide

theorem inverse_inverse (clifford : LocalClifford) : clifford.inverse.inverse = clifford := by
  cases clifford <;> rfl

theorem act_i (x z : Bool) : LocalClifford.i.act x z = (x, z) := by
  cases x <;> cases z <;> rfl

theorem act_false (clifford : LocalClifford) : clifford.act false false = (false, false) := by
  cases clifford <;> rfl

end StabilizerPrep.LocalClifford

namespace StabilizerPrep.Layer

set_option autoImplicit false

open Mask

def clifford (layer : Layer) (qubit : Nat) : LocalClifford :=
  layer.cliffords.getD qubit .i

/-- The mask of the factors `X` and `Y` of the image of an operator. -/
def actX (layer : Layer) (x z : Nat) : Nat :=
  ofTest layer.qubits fun qubit =>
    ((layer.clifford qubit).act (x.testBit qubit) (z.testBit qubit)).1

def actZ (layer : Layer) (x z : Nat) : Nat :=
  ofTest layer.qubits fun qubit =>
    ((layer.clifford qubit).act (x.testBit qubit) (z.testBit qubit)).2

def inverse (layer : Layer) : Layer :=
  ⟨layer.cliffords.map LocalClifford.inverse⟩

def after (second first : Layer) : Layer :=
  ⟨(List.range first.qubits).map fun qubit =>
    (second.clifford qubit).after (first.clifford qubit)⟩

def ofChoice (qubits : Nat) (choice : Nat → LocalClifford) : Layer :=
  ⟨(List.range qubits).map choice⟩

@[simp] theorem qubits_inverse (layer : Layer) : layer.inverse.qubits = layer.qubits := by
  simp [inverse, qubits]

@[simp] theorem qubits_after (second first : Layer) :
    (second.after first).qubits = first.qubits := by
  simp [after, qubits]

@[simp] theorem qubits_of_choice (qubits : Nat) (choice : Nat → LocalClifford) :
    (ofChoice qubits choice).qubits = qubits := by
  simp [ofChoice, Layer.qubits]

theorem clifford_of_choice {qubits qubit : Nat} (inside : qubit < qubits)
    (choice : Nat → LocalClifford) : (ofChoice qubits choice).clifford qubit = choice qubit := by
  simp [clifford, ofChoice, List.getD_eq_getElem?_getD, inside]

theorem clifford_inverse (layer : Layer) (qubit : Nat) :
    layer.inverse.clifford qubit = (layer.clifford qubit).inverse := by
  simp only [clifford, inverse, List.getD_eq_getElem?_getD, List.getElem?_map]
  cases layer.cliffords[qubit]? <;> rfl

theorem clifford_after (second : Layer) {first : Layer} {qubit : Nat}
    (inside : qubit < first.qubits) :
    (second.after first).clifford qubit = (second.clifford qubit).after (first.clifford qubit) :=
  clifford_of_choice inside _

variable (layer : Layer)

theorem act_x_lt (x z : Nat) : layer.actX x z < 2 ^ layer.qubits :=
  of_test_lt _ _

theorem act_z_lt (x z : Nat) : layer.actZ x z < 2 ^ layer.qubits :=
  of_test_lt _ _

variable {layer}

theorem test_bit_act_x {qubit : Nat} (inside : qubit < layer.qubits) (x z : Nat) :
    (layer.actX x z).testBit qubit =
      ((layer.clifford qubit).act (x.testBit qubit) (z.testBit qubit)).1 := by
  simp [actX, test_bit_of_test, inside]

theorem test_bit_act_z {qubit : Nat} (inside : qubit < layer.qubits) (x z : Nat) :
    (layer.actZ x z).testBit qubit =
      ((layer.clifford qubit).act (x.testBit qubit) (z.testBit qubit)).2 := by
  simp [actZ, test_bit_of_test, inside]

variable (layer)

@[simp] theorem act_x_zero : layer.actX 0 0 = 0 := by
  apply eq_of_test_bit_below (layer.act_x_lt _ _) (Nat.two_pow_pos _)
  intro qubit inside
  rw [test_bit_act_x inside, Nat.zero_testBit, LocalClifford.act_false]

@[simp] theorem act_z_zero : layer.actZ 0 0 = 0 := by
  apply eq_of_test_bit_below (layer.act_z_lt _ _) (Nat.two_pow_pos _)
  intro qubit inside
  rw [test_bit_act_z inside, Nat.zero_testBit, LocalClifford.act_false]

theorem act_x_xor (x z otherX otherZ : Nat) :
    layer.actX (x ^^^ otherX) (z ^^^ otherZ) = layer.actX x z ^^^ layer.actX otherX otherZ := by
  apply eq_of_test_bit_below (layer.act_x_lt _ _)
    (Nat.xor_lt_two_pow (layer.act_x_lt _ _) (layer.act_x_lt _ _))
  intro qubit inside
  simp only [test_bit_act_x inside, Nat.testBit_xor, LocalClifford.act_xor]

theorem act_z_xor (x z otherX otherZ : Nat) :
    layer.actZ (x ^^^ otherX) (z ^^^ otherZ) = layer.actZ x z ^^^ layer.actZ otherX otherZ := by
  apply eq_of_test_bit_below (layer.act_z_lt _ _)
    (Nat.xor_lt_two_pow (layer.act_z_lt _ _) (layer.act_z_lt _ _))
  intro qubit inside
  simp only [test_bit_act_z inside, Nat.testBit_xor, LocalClifford.act_xor]

variable {layer}

@[simp] theorem qubits_identity (qubits : Nat) : (identity qubits).qubits = qubits := by
  simp [identity, Layer.qubits]

theorem clifford_identity (qubits qubit : Nat) : (identity qubits).clifford qubit = .i := by
  by_cases inside : qubit < qubits <;>
    simp [clifford, identity, List.getD_eq_getElem?_getD, inside]

theorem act_identity {qubits x z : Nat} (xBound : x < 2 ^ qubits)
    (zBound : z < 2 ^ qubits) :
    (identity qubits).actX x z = x ∧ (identity qubits).actZ x z = z := by
  have sameX := (identity qubits).act_x_lt x z
  have sameZ := (identity qubits).act_z_lt x z
  rw [qubits_identity] at sameX sameZ
  constructor
  · apply eq_of_test_bit_below sameX xBound
    intro qubit inside
    rw [test_bit_act_x (by simpa using inside), clifford_identity, LocalClifford.act_i]
  · apply eq_of_test_bit_below sameZ zBound
    intro qubit inside
    rw [test_bit_act_z (by simpa using inside), clifford_identity, LocalClifford.act_i]

/-- A layer and then its inverse leave every operator as it was. -/
theorem act_inverse {x z : Nat} (xBound : x < 2 ^ layer.qubits)
    (zBound : z < 2 ^ layer.qubits) :
    layer.inverse.actX (layer.actX x z) (layer.actZ x z) = x ∧
      layer.inverse.actZ (layer.actX x z) (layer.actZ x z) = z := by
  have sameX := layer.inverse.act_x_lt (layer.actX x z) (layer.actZ x z)
  have sameZ := layer.inverse.act_z_lt (layer.actX x z) (layer.actZ x z)
  rw [qubits_inverse] at sameX sameZ
  constructor
  · apply eq_of_test_bit_below sameX xBound
    intro qubit inside
    rw [test_bit_act_x (by simpa using inside), test_bit_act_x inside, test_bit_act_z inside,
      clifford_inverse, LocalClifford.act_inverse]
  · apply eq_of_test_bit_below sameZ zBound
    intro qubit inside
    rw [test_bit_act_z (by simpa using inside), test_bit_act_x inside, test_bit_act_z inside,
      clifford_inverse, LocalClifford.act_inverse]

theorem act_injective {x z otherX otherZ : Nat}
    (bounds : x < 2 ^ layer.qubits ∧ z < 2 ^ layer.qubits)
    (otherBounds : otherX < 2 ^ layer.qubits ∧ otherZ < 2 ^ layer.qubits)
    (sameX : layer.actX x z = layer.actX otherX otherZ)
    (sameZ : layer.actZ x z = layer.actZ otherX otherZ) : x = otherX ∧ z = otherZ := by
  have undone := act_inverse bounds.1 bounds.2
  have otherUndone := act_inverse otherBounds.1 otherBounds.2
  rw [sameX, sameZ] at undone
  exact ⟨undone.1.symm.trans otherUndone.1, undone.2.symm.trans otherUndone.2⟩

theorem inverse_inverse (layer : Layer) : layer.inverse.inverse = layer := by
  simp [inverse, Function.comp_def, LocalClifford.inverse_inverse]

theorem act_of_inverse {x z : Nat} (xBound : x < 2 ^ layer.qubits)
    (zBound : z < 2 ^ layer.qubits) :
    layer.actX (layer.inverse.actX x z) (layer.inverse.actZ x z) = x ∧
      layer.actZ (layer.inverse.actX x z) (layer.inverse.actZ x z) = z := by
  rw [← qubits_inverse] at xBound zBound
  have undone := act_inverse xBound zBound
  rwa [inverse_inverse] at undone

theorem act_after (second : Layer) {first : Layer} (same : second.qubits = first.qubits)
    (x z : Nat) :
    (second.after first).actX x z = second.actX (first.actX x z) (first.actZ x z) ∧
      (second.after first).actZ x z = second.actZ (first.actX x z) (first.actZ x z) := by
  have boundX := second.act_x_lt (first.actX x z) (first.actZ x z)
  have boundZ := second.act_z_lt (first.actX x z) (first.actZ x z)
  rw [same, ← qubits_after second first] at boundX boundZ
  constructor
  · apply eq_of_test_bit_below ((second.after first).act_x_lt x z) boundX
    intro qubit inside
    have below : qubit < first.qubits := by simpa using inside
    rw [test_bit_act_x inside, test_bit_act_x (by omega), test_bit_act_x below,
      test_bit_act_z below, clifford_after second below, LocalClifford.act_after]
  · apply eq_of_test_bit_below ((second.after first).act_z_lt x z) boundZ
    intro qubit inside
    have below : qubit < first.qubits := by simpa using inside
    rw [test_bit_act_z inside, test_bit_act_z (by omega), test_bit_act_x below,
      test_bit_act_z below, clifford_after second below, LocalClifford.act_after]

theorem act_or {x z : Nat} (xBound : x < 2 ^ layer.qubits)
    (zBound : z < 2 ^ layer.qubits) :
    layer.actX x z ||| layer.actZ x z = x ||| z := by
  apply eq_of_test_bit_below (Nat.or_lt_two_pow (layer.act_x_lt x z) (layer.act_z_lt x z))
    (Nat.or_lt_two_pow xBound zBound)
  intro qubit inside
  rw [Nat.testBit_or, Nat.testBit_or, test_bit_act_x inside, test_bit_act_z inside,
    LocalClifford.or_act]

theorem dot_act_iff {x z otherX otherZ : Nat} (xBound : x < 2 ^ layer.qubits)
    (zBound : z < 2 ^ layer.qubits) :
    dot (layer.actX x z) (layer.actZ otherX otherZ) =
        dot (layer.actZ x z) (layer.actX otherX otherZ) ↔ dot x otherZ = dot z otherX := by
  have parts : (layer.actX x z &&& layer.actZ otherX otherZ) ^^^
      (layer.actZ x z &&& layer.actX otherX otherZ) = (x &&& otherZ) ^^^ (z &&& otherX) := by
    apply eq_of_test_bit_below
      (Nat.xor_lt_two_pow (Nat.and_lt_two_pow _ (layer.act_z_lt _ _))
        (Nat.and_lt_two_pow _ (layer.act_x_lt _ _)))
      (Nat.xor_lt_two_pow (Nat.lt_of_le_of_lt Nat.and_le_left xBound)
        (Nat.lt_of_le_of_lt Nat.and_le_left zBound))
    intro qubit inside
    simp only [Nat.testBit_xor, Nat.testBit_and, test_bit_act_x inside, test_bit_act_z inside]
    exact LocalClifford.form_act _ _ _ _ _
  have parity := congrArg parity parts
  rw [parity_xor, parity_xor] at parity
  change (dot _ _ != dot _ _) = (dot _ _ != dot _ _) at parity
  constructor
  · intro same
    rw [same, bne_self_eq_false] at parity
    simpa using parity.symm
  · intro same
    rw [same, bne_self_eq_false] at parity
    simpa using parity

theorem act_x_combine (layer : Layer) {α : Type} (items : List α) (xs zs : α → Nat)
    (selection : Nat) :
    layer.actX (Matrix.combine (items.map xs) selection) (Matrix.combine (items.map zs) selection) =
      Matrix.combine (items.map fun item => layer.actX (xs item) (zs item)) selection := by
  induction items generalizing selection with
  | nil => exact layer.act_x_zero
  | cons item items ih =>
      simp only [List.map_cons, Matrix.combine, act_x_xor, ih]
      cases selection.testBit 0 <;> simp

theorem act_z_combine (layer : Layer) {α : Type} (items : List α) (xs zs : α → Nat)
    (selection : Nat) :
    layer.actZ (Matrix.combine (items.map xs) selection) (Matrix.combine (items.map zs) selection) =
      Matrix.combine (items.map fun item => layer.actZ (xs item) (zs item)) selection := by
  induction items generalizing selection with
  | nil => exact layer.act_z_zero
  | cons item items ih =>
      simp only [List.map_cons, Matrix.combine, act_z_xor, ih]
      cases selection.testBit 0 <;> simp

end StabilizerPrep.Layer
