import StabilizerPrep.Proofs.GraphForm
import StabilizerPrep.Proofs.LayerSolver

/-!
# Layers on the parts of a stabilizer

A layer acts on the X part and the Z part of a stabilizer by mixing rows, which
is its action on every generator. The stabilizer of the transformed parts is
the same as another one up to signs exactly when the layer sends the one group
onto the other, and the test of the layer solver says the same of a graph
state.
-/

namespace StabilizerPrep.Matrix

set_option autoImplicit false

def digits (matrix : Matrix) : DigitMatrix where
  height := matrix.height
  columns := matrix.columns
  digits := matrix.rows.map fun row => (Mask.bits matrix.columns row).map Bool.toNat

theorem is_binary_digits (matrix : Matrix) : matrix.digits.isBinary = true := by
  rw [DigitMatrix.isBinary, List.all_eq_true]
  intro row member
  obtain ⟨mask, _, rfl⟩ := List.mem_map.1 member
  rw [List.all_eq_true]
  intro digit digitMember
  obtain ⟨bit, _, rfl⟩ := List.mem_map.1 digitMember
  cases bit <;> decide

@[simp] theorem to_matrix_digits (matrix : Matrix) : matrix.digits.toMatrix = matrix := by
  have rows : (matrix.digits.digits.map fun row => Mask.ofBits (row.map (· != 0))) =
      matrix.rows := by
    rw [digits, List.map_map]
    conv_rhs => rw [← List.map_id matrix.rows]
    apply List.map_congr_left
    intro row member
    have back : ((Mask.bits matrix.columns row).map Bool.toNat).map (· != 0) =
        Mask.bits matrix.columns row := by
      rw [List.map_map]
      conv_rhs => rw [← List.map_id (Mask.bits matrix.columns row)]
      apply List.map_congr_left
      intro bit _
      cases bit <;> rfl
    change Mask.ofBits (((Mask.bits matrix.columns row).map Bool.toNat).map (· != 0)) = row
    rw [back, Mask.of_bits_bits (matrix.bounded row member)]
  have same := rows_of_rows matrix.bounded
  rw [DigitMatrix.toMatrix, rows]
  cases matrix with
  | mk columns rows bounded =>
      simp only [ofRows, mk.injEq]
      exact ⟨rfl, same⟩

end StabilizerPrep.Matrix

namespace StabilizerPrep.Stabilizer

set_option autoImplicit false

open Mask StabilizerPrep.Matrix

variable (stabilizer : Stabilizer)

def image (layer : Layer) : Stabilizer :=
  ofGenerators (stabilizer.generators.map fun generator =>
    ⟨layer.actX generator.x generator.z, layer.actZ generator.x generator.z, false⟩)

theorem height_x_part : stabilizer.xPart.height = stabilizer.qubits := by
  simp [xPart]

theorem height_z_part : stabilizer.zPart.height = stabilizer.qubits := by
  simp [zPart]

theorem entry_x_part {qubit : Nat} (inside : qubit < stabilizer.qubits) (index : Nat) :
    stabilizer.xPart.entry qubit index = (stabilizer.xs.getD index 0).testBit qubit := by
  rw [x_part_eq_of_columns, entry_of_columns (by rwa [length_xs])]

theorem entry_z_part {qubit : Nat} (inside : qubit < stabilizer.qubits) (index : Nat) :
    stabilizer.zPart.entry qubit index = (stabilizer.zs.getD index 0).testBit qubit := by
  rw [z_part_eq_of_columns, entry_of_columns (by rwa [length_zs])]

variable {stabilizer} {layer : Layer}

theorem entry_transform_parts (qubits : layer.qubits = stabilizer.qubits) {qubit : Nat}
    (inside : qubit < stabilizer.qubits) (index : Nat) :
    (layer.transform stabilizer.xPart stabilizer.zPart).1.entry qubit index =
        (layer.actX (stabilizer.xs.getD index 0) (stabilizer.zs.getD index 0)).testBit qubit ∧
      (layer.transform stabilizer.xPart stabilizer.zPart).2.entry qubit index =
        (layer.actZ (stabilizer.xs.getD index 0) (stabilizer.zs.getD index 0)).testBit qubit := by
  have entries := Layer.entry_transform
    (qubits.trans stabilizer.height_x_part.symm)
    (stabilizer.height_z_part.trans stabilizer.height_x_part.symm) rfl
    (show qubit < stabilizer.xPart.height by rwa [height_x_part]) index
  rw [entry_x_part _ inside, entry_z_part _ inside] at entries
  rw [Layer.test_bit_act_x (by rwa [qubits]), Layer.test_bit_act_z (by rwa [qubits])]
  exact entries

theorem getD_xs {index : Nat} (inside : index < stabilizer.generators.length) :
    stabilizer.xs.getD index 0 = stabilizer.generators[index].x := by
  rw [xs, List.getD_eq_getElem _ _ (by simpa using inside), List.getElem_map]

theorem getD_zs {index : Nat} (inside : index < stabilizer.generators.length) :
    stabilizer.zs.getD index 0 = stabilizer.generators[index].z := by
  rw [zs, List.getD_eq_getElem _ _ (by simpa using inside), List.getElem_map]

theorem of_parts_transform (qubits : layer.qubits = stabilizer.qubits) :
    ofParts (layer.transform stabilizer.xPart stabilizer.zPart).1
        (layer.transform stabilizer.xPart stabilizer.zPart).2
        (List.replicate stabilizer.qubits false) = stabilizer.image layer := by
  obtain ⟨xHeight, zHeight⟩ := Layer.height_transform (qubits.trans stabilizer.height_x_part.symm)
    (stabilizer.height_z_part.trans stabilizer.height_x_part.symm)
  rw [height_x_part] at xHeight zHeight
  rw [ofParts, image]
  congr 1
  apply List.ext_getElem
  · simp [Stabilizer.qubits]
  · intro index _ inside
    have listed : index < stabilizer.generators.length := by simpa using inside
    have boundX := layer.act_x_lt (stabilizer.xs.getD index 0) (stabilizer.zs.getD index 0)
    have boundZ := layer.act_z_lt (stabilizer.xs.getD index 0) (stabilizer.zs.getD index 0)
    rw [qubits] at boundX boundZ
    rw [List.getElem_mapIdx, List.getElem_replicate, List.getElem_map,
      column_eq (by rwa [xHeight]) fun qubit below =>
        (entry_transform_parts qubits (by rwa [xHeight] at below) index).1,
      column_eq (by rwa [zHeight]) fun qubit below =>
        (entry_transform_parts qubits (by rwa [zHeight] at below) index).2,
      getD_xs listed, getD_zs listed]

theorem of_matrices_digits {xs zs : Matrix} {signs : List Bool} (positive : 0 < signs.length)
    (small : signs.length ≤ Pauli.maxQubits) (xHeight : xs.height = signs.length)
    (xColumns : xs.columns = signs.length) (zHeight : zs.height = signs.length)
    (zColumns : zs.columns = signs.length) :
    ofMatrices xs.digits zs.digits (some (signs.map Bool.toNat)) = .ok (ofParts xs zs signs) := by
  have size : checkSize signs.length = .ok () := by
    rw [checkSize, if_neg (by omega), if_neg (by omega)]
  have dimension : ∀ dimension, ofMatrices.checkDimension dimension signs.length signs.length =
      .ok () := fun _ => if_pos rfl
  have binary : (signs.map Bool.toNat).all (fun digit => decide (digit ≤ 1)) = true := by
    rw [List.all_map, List.all_eq_true]
    intro negative _
    cases negative <;> rfl
  have back : (signs.map Bool.toNat).map (· != 0) = signs := by
    rw [List.map_map]
    conv_rhs => rw [← List.map_id signs]
    apply List.map_congr_left
    intro negative _
    cases negative <;> rfl
  have xSize : xs.digits.height = signs.length := xHeight
  have zSize : zs.digits.height = signs.length := zHeight
  have xWidth : xs.digits.columns = signs.length := xColumns
  have zWidth : zs.digits.columns = signs.length := zColumns
  unfold ofMatrices
  simp only [xSize, zSize, xWidth, zWidth, size, dimension, Option.getD_some, List.length_map,
    is_binary_digits, binary, Bool.and_self, if_true, to_matrix_digits, back]
  rfl

theorem of_matrices_transform (qubits : layer.qubits = stabilizer.qubits)
    (positive : 0 < stabilizer.qubits) (small : stabilizer.qubits ≤ Pauli.maxQubits) :
    ofMatrices (layer.transform stabilizer.xPart stabilizer.zPart).1.digits
        (layer.transform stabilizer.xPart stabilizer.zPart).2.digits none =
      .ok (stabilizer.image layer) := by
  obtain ⟨xHeight, zHeight⟩ := Layer.height_transform (qubits.trans stabilizer.height_x_part.symm)
    (stabilizer.height_z_part.trans stabilizer.height_x_part.symm)
  have length : (List.replicate stabilizer.qubits false).length = stabilizer.qubits :=
    List.length_replicate
  have plus : List.replicate (layer.transform stabilizer.xPart stabilizer.zPart).1.digits.height 0 =
      (List.replicate stabilizer.qubits false).map Bool.toNat := by
    rw [List.map_replicate, ← stabilizer.height_x_part, ← xHeight]
    rfl
  have taken := of_matrices_digits (by rwa [length]) (by rwa [length])
    (by rw [xHeight, height_x_part, length]) length.symm
    (by rw [zHeight, height_x_part, length]) length.symm
  rw [of_parts_transform qubits, ← plus] at taken
  exact taken

theorem generators_image (qubits : layer.qubits = stabilizer.qubits) :
    (stabilizer.image layer).generators = stabilizer.generators.map fun generator =>
      ⟨layer.actX generator.x generator.z, layer.actZ generator.x generator.z, false⟩ := by
  simp only [image, ofGenerators, List.map_map, List.length_map]
  apply List.map_congr_left
  intro generator _
  have boundX := layer.act_x_lt generator.x generator.z
  have boundZ := layer.act_z_lt generator.x generator.z
  rw [qubits] at boundX boundZ
  simp only [Function.comp_apply, Generator.mk.injEq, and_true]
  exact ⟨Nat.mod_eq_of_lt boundX, Nat.mod_eq_of_lt boundZ⟩

@[simp] theorem qubits_image (layer : Layer) :
    (stabilizer.image layer).qubits = stabilizer.qubits := by
  simp [image, ofGenerators, Stabilizer.qubits]

/-- The image is the same as another stabilizer up to signs exactly when the
layer sends the one group onto the other. -/
theorem Valid.image_same_up_to_signs_iff {other : Stabilizer} (valid : stabilizer.Valid)
    (otherValid : other.Valid) (qubits : layer.qubits = stabilizer.qubits) :
    (stabilizer.image layer).sameUpToSigns other = true ↔ Carries layer stabilizer other := by
  rw [sameUpToSigns, Bool.and_eq_true, beq_iff_eq, qubits_image, commutesWith, List.all_eq_true,
    generators_image qubits]
  constructor
  · rintro ⟨same, commuting⟩
    refine valid.carries_of_generators otherValid qubits (qubits.trans same) ?_
    intro generator member
    have boundX := layer.act_x_lt generator.x generator.z
    have boundZ := layer.act_z_lt generator.x generator.z
    rw [qubits, same] at boundX boundZ
    apply otherValid.contains_of_commutes boundX boundZ
    intro otherGenerator otherMember
    have commutes := List.all_eq_true.1 (commuting _ (List.mem_map.2 ⟨generator, member, rfl⟩))
      otherGenerator otherMember
    rwa [Generator.commutes_eq, beq_iff_eq] at commutes
  · intro carries
    refine ⟨carries.source.symm.trans carries.target, ?_⟩
    intro imaged member
    obtain ⟨generator, generatorMember, rfl⟩ := List.mem_map.1 member
    have contained := contains_generator generatorMember
    have bounds := contained.bounded
    rw [← qubits] at bounds
    have imageIn := (carries.contains _ _ bounds.1 bounds.2).1 contained
    rw [List.all_eq_true]
    intro otherGenerator otherMember
    rw [Generator.commutes_eq, beq_iff_eq]
    exact otherValid.dot_eq imageIn (contains_generator otherMember)

theorem odd_adjacent (graph : Graph) (vertex : Nat) {mask width : Nat}
    (bound : mask < 2 ^ width) :
    odd ((List.range width).map fun other => graph.adjacent vertex other && mask.testBit other) =
      dot mask (graph.neighbourhood vertex) := by
  have sum := dot_of_bits_map width mask.testBit 0 (graph.neighbourhood vertex)
  rw [← List.range_eq_range', Nat.shiftRight_zero] at sum
  rw [dot_comm, ← of_bits_bits bound]
  change _ = dot _ (ofBits ((List.range width).map mask.testBit))
  rw [sum, of_bits_bits bound]
  rfl

theorem act_entry (qubits : layer.qubits = stabilizer.qubits) {index : Nat}
    (inside : index < stabilizer.generators.length) {qubit : Nat}
    (below : qubit < stabilizer.qubits) :
    (layer.clifford qubit).act (stabilizer.xPart.entry qubit index)
        (stabilizer.zPart.entry qubit index) =
      ((layer.actX stabilizer.generators[index].x stabilizer.generators[index].z).testBit qubit,
        (layer.actZ stabilizer.generators[index].x
          stabilizer.generators[index].z).testBit qubit) := by
  rw [entry_x_part _ below, entry_z_part _ below, getD_xs inside, getD_zs inside,
    Layer.test_bit_act_x (by rwa [qubits]), Layer.test_bit_act_z (by rwa [qubits])]

/-- A column lands in the group of the graph state exactly when the image of
its generator is in it. -/
theorem lands_column_iff {graph : Graph} (simple : graph.Simple)
    (qubits : layer.qubits = stabilizer.qubits) (size : graph.size = stabilizer.qubits)
    {index : Nat} (inside : index < stabilizer.generators.length) :
    (∀ vertex < stabilizer.qubits,
      odd ((List.range stabilizer.qubits).map fun other => graph.adjacent vertex other &&
          ((layer.clifford other).act (stabilizer.xPart.entry other index)
            (stabilizer.zPart.entry other index)).1) =
        ((layer.clifford vertex).act (stabilizer.xPart.entry vertex index)
          (stabilizer.zPart.entry vertex index)).2) ↔
      (ofGraph graph).Contains
        (layer.actX stabilizer.generators[index].x stabilizer.generators[index].z)
        (layer.actZ stabilizer.generators[index].x stabilizer.generators[index].z) := by
  have boundX := layer.act_x_lt stabilizer.generators[index].x stabilizer.generators[index].z
  have boundZ := layer.act_z_lt stabilizer.generators[index].x stabilizer.generators[index].z
  rw [qubits] at boundX boundZ
  rw [contains_of_graph_iff_test_bit simple, size, and_iff_right boundX, and_iff_right boundZ]
  refine forall_congr' fun vertex => imp_congr_right fun below => ?_
  rw [List.map_congr_left fun other member => by
    rw [act_entry qubits inside (List.mem_range.1 member)], odd_adjacent graph vertex boundX,
    act_entry qubits inside below]
  exact eq_comm

theorem lands_iff {graph : Graph} (simple : graph.Simple)
    (qubits : layer.qubits = stabilizer.qubits) (size : graph.size = stabilizer.qubits) :
    layer.Lands stabilizer.xPart stabilizer.zPart graph ↔
      ∀ generator ∈ stabilizer.generators, (ofGraph graph).Contains
        (layer.actX generator.x generator.z) (layer.actZ generator.x generator.z) := by
  rw [Layer.Lands, height_x_part]
  constructor
  · intro lands generator member
    obtain ⟨index, inside, rfl⟩ := List.getElem_of_mem member
    exact (lands_column_iff simple qubits size inside).1 fun vertex below =>
      lands vertex below index inside
  · intro contained vertex below index inside
    exact (lands_column_iff simple qubits size inside).2 (contained _ (List.getElem_mem _)) vertex
      below

/-- The test of a layer on the parts of a valid stabilizer says that it sends
the group onto that of the graph state. -/
theorem Valid.reaches_iff_carries (valid : stabilizer.Valid) {graph : Graph}
    (simple : graph.Simple) :
    layer.reaches stabilizer.xPart stabilizer.zPart graph = true ↔
      Carries layer stabilizer (ofGraph graph) := by
  rw [Layer.reaches_iff, height_x_part, height_z_part]
  constructor
  · rintro ⟨⟨qubits, size, -, -⟩, landed⟩
    exact valid.carries_of_generators (valid_of_graph simple) qubits
      (by rw [qubits, qubits_of_graph, size]) ((lands_iff simple qubits size).1 landed)
  · intro carries
    have size : graph.size = stabilizer.qubits := by
      rw [← carries.source, carries.target, qubits_of_graph]
    refine ⟨⟨carries.source, size, rfl, rfl⟩, (lands_iff simple carries.source size).2 ?_⟩
    intro generator member
    have contained := contains_generator member
    have bounds := contained.bounded
    rw [← carries.source] at bounds
    exact (carries.contains _ _ bounds.1 bounds.2).1 contained

end StabilizerPrep.Stabilizer
