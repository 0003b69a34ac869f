import Mathlib.GroupTheory.Perm.Sign
import StabilizerPrep.Proofs.Invariance
import StabilizerPrep.Proofs.TemplateBoards

/-!
# Relabelled qubits

A permutation gives the qubits new names. It acts on masks and on layers, and
renaming the image of an operator under a layer is the same as renaming first
and then applying the renamed layer. So the permutations that send one group
onto another, together with some layer, can be composed and undone; for the
identity they are local equivalences. On the board of a graph, exchanging two
vertices is renaming by a transposition.
-/

namespace StabilizerPrep.Mask

set_option autoImplicit false

variable {width : Nat}

/-- The mask after its positions are renamed: what was at a position is now where
the permutation sends it. -/
def relabel (permutation : Equiv.Perm (Fin width)) (mask : Nat) : Nat :=
  ofBits ((List.finRange width).map fun position => mask.testBit (permutation.symm position))

theorem relabel_lt (permutation : Equiv.Perm (Fin width)) (mask : Nat) :
    relabel permutation mask < 2 ^ width := by
  have bound := of_bits_lt
    ((List.finRange width).map fun position => mask.testBit (permutation.symm position))
  rwa [List.length_map, List.length_finRange] at bound

theorem test_bit_relabel (permutation : Equiv.Perm (Fin width)) (mask : Nat)
    (position : Fin width) :
    (relabel permutation mask).testBit position = mask.testBit (permutation.symm position) := by
  rw [relabel, test_bit_of_bits, List.getD_eq_getElem _ _ (by simp), List.getElem_map,
    List.getElem_finRange]
  rfl

theorem relabel_one {mask : Nat} (bound : mask < 2 ^ width) :
    relabel (1 : Equiv.Perm (Fin width)) mask = mask := by
  apply eq_of_test_bit_below (relabel_lt _ _) bound
  intro position inside
  exact test_bit_relabel 1 mask ⟨position, inside⟩

theorem relabel_mul (second first : Equiv.Perm (Fin width)) (mask : Nat) :
    relabel (second * first) mask = relabel second (relabel first mask) := by
  apply eq_of_test_bit_below (relabel_lt _ _) (relabel_lt _ _)
  intro position inside
  rw [test_bit_relabel _ _ ⟨position, inside⟩, test_bit_relabel _ _ ⟨position, inside⟩,
    test_bit_relabel]
  rfl

theorem relabel_inv_relabel (permutation : Equiv.Perm (Fin width)) {mask : Nat}
    (bound : mask < 2 ^ width) :
    relabel permutation⁻¹ (relabel permutation mask) = mask := by
  rw [← relabel_mul, inv_mul_cancel, relabel_one bound]

theorem relabel_relabel_inv (permutation : Equiv.Perm (Fin width)) {mask : Nat}
    (bound : mask < 2 ^ width) :
    relabel permutation (relabel permutation⁻¹ mask) = mask := by
  rw [← relabel_mul, mul_inv_cancel, relabel_one bound]

theorem relabel_swap (first second : Fin width) {mask : Nat} (bound : mask < 2 ^ width) :
    relabel (Equiv.swap first second) mask = swap first second mask := by
  apply eq_of_test_bit_below (relabel_lt _ _) (swap_lt first.isLt second.isLt bound)
  intro position inside
  rw [test_bit_relabel _ _ ⟨position, inside⟩, Board.test_bit_swap_eq, Equiv.symm_swap,
    Equiv.swap_apply_def, Board.other]
  simp only [Fin.ext_iff]
  split_ifs <;> rfl

end StabilizerPrep.Mask

namespace StabilizerPrep.Layer

set_option autoImplicit false

open Mask

variable {width : Nat}

def relabel (permutation : Equiv.Perm (Fin width)) (layer : Layer) : Layer :=
  ⟨(List.finRange width).map fun qubit => layer.clifford (permutation.symm qubit)⟩

@[simp] theorem qubits_relabel (permutation : Equiv.Perm (Fin width)) (layer : Layer) :
    (layer.relabel permutation).qubits = width := by
  simp [relabel, qubits]

theorem clifford_relabel (permutation : Equiv.Perm (Fin width)) (layer : Layer)
    (qubit : Fin width) :
    (layer.relabel permutation).clifford qubit = layer.clifford (permutation.symm qubit) := by
  simp [relabel, clifford, List.getD_eq_getElem?_getD]

/-- Renaming goes along with the action of a layer. -/
theorem act_relabel (permutation : Equiv.Perm (Fin width)) {layer : Layer}
    (same : layer.qubits = width) (x z : Nat) :
    (layer.relabel permutation).actX (Mask.relabel permutation x) (Mask.relabel permutation z) =
        Mask.relabel permutation (layer.actX x z) ∧
      (layer.relabel permutation).actZ (Mask.relabel permutation x)
          (Mask.relabel permutation z) =
        Mask.relabel permutation (layer.actZ x z) := by
  have boundX := (layer.relabel permutation).act_x_lt (Mask.relabel permutation x)
    (Mask.relabel permutation z)
  have boundZ := (layer.relabel permutation).act_z_lt (Mask.relabel permutation x)
    (Mask.relabel permutation z)
  rw [qubits_relabel] at boundX boundZ
  have inLayer : ∀ qubit : Fin width, (permutation.symm qubit : Nat) < layer.qubits := by
    intro qubit
    rw [same]
    exact (permutation.symm qubit).isLt
  have bits := test_bit_relabel permutation
  have renamed := clifford_relabel permutation layer
  constructor
  · apply eq_of_test_bit_below boundX (relabel_lt _ _)
    intro position inside
    rw [test_bit_act_x (by rwa [qubits_relabel]), renamed ⟨position, inside⟩,
      bits _ ⟨position, inside⟩, bits _ ⟨position, inside⟩, bits _ ⟨position, inside⟩,
      test_bit_act_x (inLayer _)]
  · apply eq_of_test_bit_below boundZ (relabel_lt _ _)
    intro position inside
    rw [test_bit_act_z (by rwa [qubits_relabel]), renamed ⟨position, inside⟩,
      bits _ ⟨position, inside⟩, bits _ ⟨position, inside⟩, bits _ ⟨position, inside⟩,
      test_bit_act_z (inLayer _)]

/-- The masks of an operator after its qubits are renamed and the layer is
applied. -/
def carry (permutation : Equiv.Perm (Fin width)) (layer : Layer) (masks : Nat × Nat) :
    Nat × Nat :=
  (layer.actX (Mask.relabel permutation masks.1) (Mask.relabel permutation masks.2),
    layer.actZ (Mask.relabel permutation masks.1) (Mask.relabel permutation masks.2))

theorem carry_one (layer : Layer) {masks : Nat × Nat} (within : Within width masks) :
    layer.carry (1 : Equiv.Perm (Fin width)) masks =
      (layer.actX masks.1 masks.2, layer.actZ masks.1 masks.2) := by
  rw [carry, relabel_one within.1, relabel_one within.2]

variable {layer : Layer}

theorem within_carry (same : layer.qubits = width) (permutation : Equiv.Perm (Fin width))
    (masks : Nat × Nat) : Within width (layer.carry permutation masks) := by
  have boundX :=
    layer.act_x_lt (Mask.relabel permutation masks.1) (Mask.relabel permutation masks.2)
  have boundZ :=
    layer.act_z_lt (Mask.relabel permutation masks.1) (Mask.relabel permutation masks.2)
  rw [same] at boundX boundZ
  exact ⟨boundX, boundZ⟩

theorem carry_relabel (same : layer.qubits = width) (permutation : Equiv.Perm (Fin width))
    (masks : Nat × Nat) :
    (layer.relabel permutation).carry permutation masks =
      (Mask.relabel permutation (layer.actX masks.1 masks.2),
        Mask.relabel permutation (layer.actZ masks.1 masks.2)) := by
  obtain ⟨renamedX, renamedZ⟩ := act_relabel permutation same masks.1 masks.2
  rw [carry, renamedX, renamedZ]

theorem carry_carry {first second : Layer} (firstQubits : first.qubits = width)
    (secondQubits : second.qubits = width)
    (earlier later : Equiv.Perm (Fin width)) (masks : Nat × Nat) :
    second.carry later (first.carry earlier masks) =
      (second.after (first.relabel later)).carry (later * earlier) masks := by
  have same : second.qubits = (first.relabel later).qubits := by
    rw [secondQubits, qubits_relabel]
  obtain ⟨renamedX, renamedZ⟩ := act_relabel later firstQubits
    (Mask.relabel earlier masks.1) (Mask.relabel earlier masks.2)
  obtain ⟨afterX, afterZ⟩ := act_after second same
    (Mask.relabel later (Mask.relabel earlier masks.1))
    (Mask.relabel later (Mask.relabel earlier masks.2))
  simp only [carry, relabel_mul]
  rw [afterX, afterZ, renamedX, renamedZ]

def undo (permutation : Equiv.Perm (Fin width)) (layer : Layer) : Layer :=
  layer.inverse.relabel permutation⁻¹

@[simp] theorem qubits_undo (permutation : Equiv.Perm (Fin width)) (layer : Layer) :
    (layer.undo permutation).qubits = width :=
  qubits_relabel _ _

theorem carry_undo (same : layer.qubits = width) (permutation : Equiv.Perm (Fin width))
    {masks : Nat × Nat} (within : Within width masks) :
    (layer.undo permutation).carry permutation⁻¹ (layer.carry permutation masks) = masks := by
  have bounded : ∀ mask, Mask.relabel permutation mask < 2 ^ layer.qubits := by
    intro mask
    rw [same]
    exact relabel_lt permutation mask
  obtain ⟨undoneX, undoneZ⟩ := act_inverse (bounded masks.1) (bounded masks.2)
  rw [undo, carry_relabel (by rw [qubits_inverse, same])]
  simp only [carry]
  rw [undoneX, undoneZ, relabel_inv_relabel permutation within.1,
    relabel_inv_relabel permutation within.2]

theorem carry_of_undo (same : layer.qubits = width) (permutation : Equiv.Perm (Fin width))
    {masks : Nat × Nat} (within : Within width masks) :
    layer.carry permutation ((layer.undo permutation).carry permutation⁻¹ masks) = masks := by
  have boundX := layer.inverse.act_x_lt masks.1 masks.2
  have boundZ := layer.inverse.act_z_lt masks.1 masks.2
  rw [qubits_inverse, same] at boundX boundZ
  rw [undo, carry_relabel (by rw [qubits_inverse, same]), carry]
  dsimp only
  rw [relabel_relabel_inv permutation boundX, relabel_relabel_inv permutation boundZ]
  rw [← same] at within
  obtain ⟨sameX, sameZ⟩ := act_of_inverse within.1 within.2
  rw [sameX, sameZ]

end StabilizerPrep.Layer

namespace StabilizerPrep.Stabilizer

set_option autoImplicit false

open Mask

variable {width : Nat}

/-- The masks of the elements of the group. -/
def unsignedGroup (stabilizer : Stabilizer) : Set (Nat × Nat) :=
  {masks | ∃ element ∈ stabilizer.elements, (element.x, element.z) = masks}

theorem mem_unsigned_group_iff (stabilizer : Stabilizer) (masks : Nat × Nat) :
    masks ∈ stabilizer.unsignedGroup ↔ stabilizer.Contains masks.1 masks.2 := by
  have listed : masks ∈ stabilizer.unsignedGroup ↔
      masks ∈ stabilizer.elements.map fun element => (element.x, element.z) := List.mem_map.symm
  rw [listed, masks_elements, List.mem_map]
  constructor
  · rintro ⟨selection, _, rfl⟩
    exact ⟨selection, rfl, rfl⟩
  · intro contained
    obtain ⟨selection, bound, sameX, sameZ⟩ := contained.exists_lt
    exact ⟨selection, List.mem_range.2 bound, Prod.ext sameX sameZ⟩

theorem within_unsigned_group {stabilizer : Stabilizer} {masks : Nat × Nat}
    (member : masks ∈ stabilizer.unsignedGroup) : Within stabilizer.qubits masks :=
  ((mem_unsigned_group_iff stabilizer masks).1 member).bounded

/-- A renaming and a layer send the one group onto the other exactly when they
keep apart what is inside and what is not. -/
theorem image_carry_eq_iff {layer : Layer} (same : layer.qubits = width)
    (permutation : Equiv.Perm (Fin width)) {first second : Stabilizer}
    (qubits : first.qubits = width) (secondQubits : second.qubits = width) :
    Set.image (layer.carry permutation) first.unsignedGroup = second.unsignedGroup ↔
      ∀ masks, Within width masks →
        (masks ∈ first.unsignedGroup ↔ layer.carry permutation masks ∈ second.unsignedGroup) := by
  constructor
  · intro image masks within
    rw [← image]
    constructor
    · exact fun member => Set.mem_image_of_mem _ member
    · rintro ⟨origin, member, sent⟩
      have originWithin := within_unsigned_group member
      rw [qubits] at originWithin
      have own := Layer.carry_undo same permutation originWithin
      rw [sent, Layer.carry_undo same permutation within] at own
      rwa [own]
  · intro kept
    apply Set.ext
    intro masks
    constructor
    · rintro ⟨origin, member, rfl⟩
      have within := within_unsigned_group member
      rw [qubits] at within
      exact (kept origin within).1 member
    · intro member
      have within := within_unsigned_group member
      rw [secondQubits] at within
      have sent := Layer.carry_of_undo same permutation within
      refine ⟨(layer.undo permutation).carry permutation⁻¹ masks, ?_, sent⟩
      rw [kept _ (Layer.within_carry (layer.qubits_undo permutation) _ _), sent]
      exact member

def RelabelsTo (permutation : Equiv.Perm (Fin width)) (first second : Stabilizer) : Prop :=
  ∃ layer : Layer, layer.qubits = width ∧
    Set.image (layer.carry permutation) first.unsignedGroup = second.unsignedGroup

theorem RelabelsTo.trans {earlier later : Equiv.Perm (Fin width)}
    {first second third : Stabilizer} (one : RelabelsTo earlier first second)
    (two : RelabelsTo later second third) : RelabelsTo (later * earlier) first third := by
  obtain ⟨firstLayer, firstQubits, firstImage⟩ := one
  obtain ⟨secondLayer, secondQubits, secondImage⟩ := two
  refine ⟨secondLayer.after (firstLayer.relabel later), ?_, ?_⟩
  · rw [Layer.qubits_after, Layer.qubits_relabel]
  · rw [← secondImage, ← firstImage, Set.image_image]
    apply Set.image_congr
    intro masks _
    exact (Layer.carry_carry firstQubits secondQubits earlier later masks).symm

theorem RelabelsTo.symm {permutation : Equiv.Perm (Fin width)} {first second : Stabilizer}
    (relabels : RelabelsTo permutation first second) (qubits : first.qubits = width) :
    RelabelsTo permutation⁻¹ second first := by
  obtain ⟨layer, same, image⟩ := relabels
  refine ⟨layer.undo permutation, layer.qubits_undo permutation, ?_⟩
  have undone : ∀ masks ∈ first.unsignedGroup,
      (layer.undo permutation).carry permutation⁻¹ (layer.carry permutation masks) = masks := by
    intro masks member
    have within := within_unsigned_group member
    rw [qubits] at within
    exact Layer.carry_undo same permutation within
  rw [← image, Set.image_image, Set.image_congr undone, Set.image_id']

theorem relabels_to_one_iff {first second : Stabilizer} (qubits : first.qubits = width)
    (secondQubits : second.qubits = width) :
    RelabelsTo (1 : Equiv.Perm (Fin width)) first second ↔ LocallyEquivalent first second := by
  have kept : ∀ layer : Layer,
      (∀ masks, Within width masks →
        (masks ∈ first.unsignedGroup ↔
          layer.carry (1 : Equiv.Perm (Fin width)) masks ∈ second.unsignedGroup)) ↔
      ∀ x z, x < 2 ^ width → z < 2 ^ width →
        (first.Contains x z ↔ second.Contains (layer.actX x z) (layer.actZ x z)) := by
    intro layer
    constructor
    · intro kept x z xBound zBound
      have own := kept (x, z) ⟨xBound, zBound⟩
      rwa [layer.carry_one ⟨xBound, zBound⟩, mem_unsigned_group_iff, mem_unsigned_group_iff] at own
    · intro contains masks within
      rw [layer.carry_one within, mem_unsigned_group_iff, mem_unsigned_group_iff]
      exact contains masks.1 masks.2 within.1 within.2
  constructor
  · rintro ⟨layer, same, image⟩
    refine ⟨layer, by rw [same, qubits], by rw [same, secondQubits], ?_⟩
    rw [same]
    exact (kept layer).1 ((image_carry_eq_iff same 1 qubits secondQubits).1 image)
  · rintro ⟨layer, source, -, contains⟩
    have same : layer.qubits = width := by rw [source, qubits]
    rw [same] at contains
    exact ⟨layer, same, (image_carry_eq_iff same 1 qubits secondQubits).2 ((kept layer).2 contains)⟩

theorem RelabelsTo.refl {stabilizer : Stabilizer} (qubits : stabilizer.qubits = width) :
    RelabelsTo (1 : Equiv.Perm (Fin width)) stabilizer stabilizer :=
  (relabels_to_one_iff qubits qubits).2 (.refl stabilizer)

/-- Exchanging two vertices of a graph renames the qubits of its state. -/
theorem relabels_to_exchange {size board : Nat} (small : size ≤ 6)
    (simple : (Board.graph size board).Simple) {first second : Fin size} (apart : first ≠ second) :
    RelabelsTo (Equiv.swap first second) (ofGraph (Board.graph size board))
      (ofGraph (Board.graph size (Board.exchange first second board))) := by
  have sizes : ∀ board, (ofGraph (Board.graph size board)).qubits = size := by
    intro board
    rw [qubits_of_graph, Board.size_graph]
  have same := Layer.qubits_identity size
  refine ⟨.identity size, same, (image_carry_eq_iff same _ (sizes _) (sizes _)).2 ?_⟩
  intro masks within
  obtain ⟨sameX, sameZ⟩ := Layer.act_identity (relabel_lt (Equiv.swap first second) masks.1)
    (relabel_lt (Equiv.swap first second) masks.2)
  rw [Layer.carry, sameX, sameZ, relabel_swap first second within.1,
    relabel_swap first second within.2, mem_unsigned_group_iff, mem_unsigned_group_iff]
  exact Board.contains_exchange_iff small simple first.isLt second.isLt
    (Fin.val_ne_of_ne apart) within.1 within.2

end StabilizerPrep.Stabilizer
