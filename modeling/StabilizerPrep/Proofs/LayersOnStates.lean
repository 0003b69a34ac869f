import StabilizerPrep.Proofs.GraphCode
import StabilizerPrep.Proofs.InverseCircuits
import StabilizerPrep.Proofs.LocalComplement

/-!
# Layers on states

A layer is kept in two forms, as matrices that mix the rows of the X part and
the Z part, and as gates in time order. Behind every circuit both forms do the
same to the prepared state. As an example of a layer at work, the graph state
of a graph is sent onto that of the graph after local complementation.
-/

namespace StabilizerPrep.Layer

set_option autoImplicit false

open Mask StabilizerPrep.Matrix

theorem height_block (layer : Layer) (coefficient : Symplectic → Bool) :
    (layer.block coefficient).height = layer.qubits := by
  rw [block, height_of_rows, List.length_mapIdx, qubits]

theorem getD_rows_block {layer : Layer} (coefficient : Symplectic → Bool) {qubit : Nat}
    (inside : qubit < layer.qubits) :
    (layer.block coefficient).rows.getD qubit 0 =
      if coefficient (layer.clifford qubit).symplectic then single qubit else 0 := by
  have listed : qubit < layer.cliffords.length := inside
  rw [block, rows_of_rows, List.getD_eq_getElem _ _ (by simpa using listed), List.getElem_mapIdx,
    clifford, List.getD_eq_getElem _ _ listed]
  intro row member
  obtain ⟨position, below, rfl⟩ := List.mem_mapIdx.1 member
  split
  · exact single_lt below
  · exact Nat.two_pow_pos _

/-- A block keeps or deletes whole rows. -/
theorem entry_block_mul {layer : Layer} (coefficient : Symplectic → Bool) {matrix : Matrix}
    (qubits : layer.qubits = matrix.height) {qubit index : Nat} (inside : qubit < matrix.height)
    (below : index < matrix.columns) :
    ((layer.block coefficient).mul matrix).entry qubit index =
      (coefficient (layer.clifford qubit).symplectic && matrix.entry qubit index) := by
  have own : qubit < layer.qubits := by rwa [qubits]
  rw [entry_mul _ _ (by rwa [height_block]) below, getD_rows_block coefficient own]
  cases coefficient (layer.clifford qubit).symplectic with
  | false => exact dot_zero_left _
  | true =>
      rw [if_pos rfl, dot_single_left, test_bit_of_bits,
        List.getD_eq_getElem _ _ (by simpa using inside), List.getElem_map, List.getElem_range,
        Bool.true_and]

theorem transform_eq_blocks {layer : Layer} {xs zs : Matrix} (qubits : layer.qubits = xs.height)
    (heights : zs.height = xs.height) (columns : zs.columns = xs.columns) :
    layer.transform xs zs =
      (((layer.block (·.xx)).mul xs).add ((layer.block (·.xz)).mul zs),
        ((layer.block (·.zx)).mul xs).add ((layer.block (·.zz)).mul zs)) := by
  obtain ⟨xHeight, zHeight⟩ := height_transform qubits heights
  have height : ∀ first second : Symplectic → Bool,
      (((layer.block first).mul xs).add ((layer.block second).mul zs)).height = xs.height := by
    intro first second
    rw [height_add, height_mul, height_mul, height_block, height_block, Nat.min_self, qubits]
  have entries : ∀ (first second : Symplectic → Bool), ∀ qubit < xs.height, ∀ index < xs.columns,
      (((layer.block first).mul xs).add ((layer.block second).mul zs)).entry qubit index =
        ((first (layer.clifford qubit).symplectic && xs.entry qubit index) !=
          (second (layer.clifford qubit).symplectic && zs.entry qubit index)) := by
    intro first second qubit inside index below
    have own : ∀ coefficient matrix, qubit < ((layer.block coefficient).mul matrix).height := by
      intro coefficient matrix
      rwa [height_mul, height_block, qubits]
    have within : index < ((layer.block first).mul xs).columns := below
    rw [entry_add _ _ (own first xs) (own second zs) within,
      entry_block_mul first qubits inside below,
      entry_block_mul second (qubits.trans heights.symm) (by rwa [heights]) (by rwa [columns])]
  apply Prod.ext
  · apply eq_of_entries (xHeight.trans (height _ _).symm) rfl
    intro qubit inside index below
    rw [xHeight] at inside
    rw [(entry_transform qubits heights columns inside index).1, entries _ _ _ inside _ below]
    rfl
  · apply eq_of_entries (zHeight.trans (height _ _).symm) rfl
    intro qubit inside index below
    rw [zHeight] at inside
    rw [(entry_transform qubits heights columns inside index).2, entries _ _ _ inside _ below]
    rfl

end StabilizerPrep.Layer

namespace StabilizerPrep.Stabilizer

set_option autoImplicit false

open Mask StabilizerPrep.Matrix

variable {stabilizer : Stabilizer} {layer : Layer}

section OfParts

variable {xs zs : Matrix} {signs : List Bool}

@[simp] theorem qubits_of_parts (xs zs : Matrix) (signs : List Bool) :
    (ofParts xs zs signs).qubits = signs.length := by
  simp [ofParts, ofGenerators, qubits]

@[simp] theorem signs_of_parts (xs zs : Matrix) (signs : List Bool) :
    (ofParts xs zs signs).signs = signs := by
  apply List.ext_getElem
  · simp [Stabilizer.signs, ofParts, ofGenerators]
  · intro index _ _
    simp [Stabilizer.signs, ofParts, ofGenerators]

theorem getElem_of_parts (xHeight : xs.height = signs.length) (zHeight : zs.height = signs.length)
    {index : Nat} (inside : index < (ofParts xs zs signs).generators.length) :
    (ofParts xs zs signs).generators[index].x = ofBits (xs.rows.map (·.testBit index)) ∧
      (ofParts xs zs signs).generators[index].z = ofBits (zs.rows.map (·.testBit index)) := by
  have xBound := column_lt xs index
  have zBound := column_lt zs index
  rw [xHeight] at xBound
  rw [zHeight] at zBound
  simp only [ofParts, ofGenerators, List.getElem_map, List.getElem_mapIdx, List.length_mapIdx]
  exact ⟨Nat.mod_eq_of_lt xBound, Nat.mod_eq_of_lt zBound⟩

theorem x_part_of_parts (xHeight : xs.height = signs.length) (zHeight : zs.height = signs.length)
    (columns : xs.columns = signs.length) : (ofParts xs zs signs).xPart = xs := by
  apply Matrix.eq_of_entries
  · rw [height_x_part, qubits_of_parts, xHeight]
  · rw [columns]
    exact qubits_of_parts xs zs signs
  intro qubit inside index below
  rw [height_x_part] at inside
  rw [entry_x_part _ inside, getD_xs below, (getElem_of_parts xHeight zHeight below).1,
    test_bit_column]

theorem z_part_of_parts (xHeight : xs.height = signs.length) (zHeight : zs.height = signs.length)
    (columns : zs.columns = signs.length) : (ofParts xs zs signs).zPart = zs := by
  apply Matrix.eq_of_entries
  · rw [height_z_part, qubits_of_parts, zHeight]
  · rw [columns]
    exact qubits_of_parts xs zs signs
  intro qubit inside index below
  rw [height_z_part] at inside
  rw [entry_z_part _ inside, getD_zs below, (getElem_of_parts xHeight zHeight below).2,
    test_bit_column]

end OfParts

theorem parts_image (qubits : layer.qubits = stabilizer.qubits) :
    ((stabilizer.image layer).xPart, (stabilizer.image layer).zPart) =
      layer.transform stabilizer.xPart stabilizer.zPart := by
  obtain ⟨xHeight, zHeight⟩ := Layer.height_transform (qubits.trans stabilizer.height_x_part.symm)
    (stabilizer.height_z_part.trans stabilizer.height_x_part.symm)
  have signs : (List.replicate stabilizer.qubits false).length = stabilizer.xPart.height := by
    rw [List.length_replicate, height_x_part]
  have columns : (List.replicate stabilizer.qubits false).length = stabilizer.qubits :=
    List.length_replicate
  rw [← signs] at xHeight zHeight
  rw [← of_parts_transform qubits, x_part_of_parts xHeight zHeight columns.symm,
    z_part_of_parts xHeight zHeight columns.symm]

theorem xs_image (qubits : layer.qubits = stabilizer.qubits) :
    (stabilizer.image layer).xs =
      stabilizer.generators.map fun generator => layer.actX generator.x generator.z := by
  rw [xs, generators_image qubits, List.map_map]
  rfl

theorem zs_image (qubits : layer.qubits = stabilizer.qubits) :
    (stabilizer.image layer).zs =
      stabilizer.generators.map fun generator => layer.actZ generator.x generator.z := by
  rw [zs, generators_image qubits, List.map_map]
  rfl

end StabilizerPrep.Stabilizer

namespace StabilizerPrep.Circuit

set_option autoImplicit false

open Mask Instruction

variable {circuit : Circuit} {layer : Layer}

def followedBy (circuit : Circuit) (layer : Layer) : Circuit :=
  ⟨circuit.width, circuit.instructions ++ layer.instructions⟩

theorem compose_circuit (same : layer.qubits = circuit.width) :
    circuit.compose layer.circuit = .ok (circuit.followedBy layer) :=
  if_pos same.symm

theorem well_formed_followed_by (wellFormed : circuit.WellFormed)
    (same : layer.qubits = circuit.width) : (circuit.followedBy layer).WellFormed := by
  apply well_formed_append wellFormed
  rw [← same]
  exact layer.well_formed_circuit

/-- Up to signs, the gates of a layer turn the prepared generators into their
images. -/
theorem images_followed_by (wellFormed : circuit.WellFormed) (same : layer.qubits = circuit.width) :
    (circuit.followedBy layer).images.map (fun generator => (generator.x, generator.z)) =
      circuit.images.map fun generator =>
        (layer.actX generator.x generator.z, layer.actZ generator.x generator.z) := by
  rw [images, images, List.map_map, List.map_map]
  apply List.map_congr_left
  intro qubit member
  have within := images_within wellFormed _ (List.mem_map.2 ⟨qubit, member, rfl⟩)
  rw [← same] at within
  let start : Generator := ⟨0, single qubit, false⟩
  change ((Generator.follow (circuit.instructions ++ layer.instructions) start).x,
    (Generator.follow (circuit.instructions ++ layer.instructions) start).z) = _
  rw [Generator.follow_append, Generator.follow_masks, Layer.move_all_instructions within]
  rfl

theorem parts_followed_by (wellFormed : circuit.WellFormed) (same : layer.qubits = circuit.width) :
    ((circuit.followedBy layer).prepared.xPart, (circuit.followedBy layer).prepared.zPart) =
      layer.transform circuit.prepared.xPart circuit.prepared.zPart := by
  have qubits : layer.qubits = circuit.prepared.qubits := by rw [qubits_prepared, same]
  have masks := images_followed_by wellFormed same
  have xs := congrArg (List.map Prod.fst) masks
  have zs := congrArg (List.map Prod.snd) masks
  rw [List.map_map, List.map_map] at xs zs
  rw [← Stabilizer.parts_image qubits]
  congr 1
  · rw [Stabilizer.x_part_eq_of_columns, Stabilizer.x_part_eq_of_columns,
      Stabilizer.xs_image qubits, Stabilizer.xs,
      generators_prepared (well_formed_followed_by wellFormed same),
      generators_prepared wellFormed]
    exact congrArg Matrix.ofColumns xs
  · rw [Stabilizer.z_part_eq_of_columns, Stabilizer.z_part_eq_of_columns,
      Stabilizer.zs_image qubits, Stabilizer.zs,
      generators_prepared (well_formed_followed_by wellFormed same),
      generators_prepared wellFormed]
    exact congrArg Matrix.ofColumns zs

def followedBack (circuit : Circuit) (layer : Layer) : Circuit :=
  ⟨circuit.width, (circuit.followedBy layer).instructions ++ layer.circuit.inverse.instructions⟩

theorem prepared_followed_back (circuit : Circuit) (layer : Layer) :
    (circuit.followedBack layer).prepared = circuit.prepared := by
  have images : (circuit.followedBack layer).images = circuit.images := by
    rw [images, images]
    apply List.map_congr_left
    intro qubit _
    change Generator.follow ((circuit.instructions ++ layer.instructions) ++ _) _ = _
    rw [Generator.follow_append, Generator.follow_append]
    exact foldl_inverse (fun instruction member => Generator.conjugate_inverse
      (layer.well_formed_circuit instruction member)) _
  rw [prepared, prepared, images]

/-- The two forms of a layer agree. Its gates make a circuit; behind any circuit
on 1 to 64 qubits this circuit changes the two parts of the prepared state as
the matrices of the layer do, and the inverse gates restore the state, with its
signs. -/
theorem layer_forms_agree (circuit : Circuit) (layer : Layer) (wellFormed : circuit.WellFormed)
    (large : 1 ≤ circuit.width) (small : circuit.width ≤ 64)
    (same : layer.qubits = circuit.width) :
    ofInstructions layer.qubits layer.instructions = .ok layer.circuit ∧
    ∃ before composed after restored final,
      Stabilizer.ofCircuit circuit = .ok before ∧
      circuit.compose layer.circuit = .ok composed ∧
      Stabilizer.ofCircuit composed = .ok after ∧
      (after.xPart, after.zPart) = layer.transform before.xPart before.zPart ∧
      after.xPart = ((layer.block (·.xx)).mul before.xPart).add
        ((layer.block (·.xz)).mul before.zPart) ∧
      after.zPart = ((layer.block (·.zx)).mul before.xPart).add
        ((layer.block (·.zz)).mul before.zPart) ∧
      composed.compose layer.circuit.inverse = .ok restored ∧
      Stabilizer.ofCircuit restored = .ok final ∧
      final = before := by
  have size : Stabilizer.checkSize circuit.width = .ok () :=
    (check_size_eq_ok_iff _).2 ⟨large, small⟩
  have undone : (circuit.followedBy layer).compose layer.circuit.inverse =
      .ok (circuit.followedBack layer) := if_pos same.symm
  have parts := parts_followed_by wellFormed same
  have heights : circuit.prepared.zPart.height = circuit.prepared.xPart.height := by
    rw [Stabilizer.height_z_part, Stabilizer.height_x_part]
  have blocks := parts.trans (Layer.transform_eq_blocks
    (by rw [Stabilizer.height_x_part, qubits_prepared, same]) heights rfl)
  exact ⟨of_instructions_of_well_formed layer.well_formed_circuit, circuit.prepared,
    circuit.followedBy layer, (circuit.followedBy layer).prepared, circuit.followedBack layer,
    (circuit.followedBack layer).prepared, of_circuit_eq size, compose_circuit same,
    of_circuit_eq size, parts, congrArg Prod.fst blocks, congrArg Prod.snd blocks, undone,
    of_circuit_eq size, prepared_followed_back circuit layer⟩

/-- The two Cliffords that are inverse to each other, behind a Bell state. -/
theorem layer_forms_agree_bell :
    let circuit : Circuit := ⟨2, [⟨.h, [0]⟩, ⟨.cx, [0, 1]⟩]⟩
    let layer : Layer := ⟨[.hs, .sh]⟩
    ∃ before composed after restored,
      Stabilizer.ofCircuit circuit = .ok before ∧
      circuit.compose layer.circuit = .ok composed ∧
      Stabilizer.ofCircuit composed = .ok after ∧
      after.xPart = .ofRows 2 [0b11, 0b10] ∧ after.zPart = .ofRows 2 [0b01, 0b11] ∧
      composed.compose layer.circuit.inverse = .ok restored ∧
      Stabilizer.ofCircuit restored = .ok before := by
  have bell : Stabilizer.ofCircuit ⟨2, [⟨.h, [0]⟩, ⟨.cx, [0, 1]⟩]⟩ =
      .ok (.ofGenerators [⟨0b11, 0, false⟩, ⟨0, 0b11, false⟩]) := rfl
  obtain ⟨-, before, composed, after, restored, final, prepared, joined, moved, -, xPart, zPart,
    undone, back, rfl⟩ := layer_forms_agree ⟨2, [⟨.h, [0]⟩, ⟨.cx, [0, 1]⟩]⟩ ⟨[.hs, .sh]⟩
      (List.forall_iff_forall_mem.1 (by decide)) (by decide) (by decide) rfl
  rw [bell] at prepared
  obtain rfl := Except.ok.inj prepared
  exact ⟨_, composed, after, restored, bell, joined, moved, xPart.trans (by decide),
    zPart.trans (by decide), undone, back⟩

end StabilizerPrep.Circuit

namespace StabilizerPrep.Stabilizer

set_option autoImplicit false

open Mask StabilizerPrep.Matrix

theorem x_part_of_graph (graph : Graph) : (ofGraph graph).xPart = Matrix.identity graph.size := by
  apply Matrix.eq_of_entries
  · rw [height_x_part, qubits_of_graph, height_identity]
  · exact qubits_of_graph
  intro qubit inside index below
  rw [height_x_part] at inside
  have listed : index < graph.size := by rwa [← @qubits_of_graph graph]
  rw [entry_x_part _ inside, xs_of_graph, List.getD_eq_getElem _ _ (by simpa using listed),
    List.getElem_map, List.getElem_range, test_bit_single,
    entry_identity (by rwa [qubits_of_graph] at inside)]
  exact decide_eq_decide.2 eq_comm

theorem z_part_of_graph {graph : Graph} (simple : graph.Simple) :
    (ofGraph graph).zPart = graph.adjacency := by
  apply Matrix.eq_of_entries
  · rw [height_z_part, qubits_of_graph, Graph.adjacency, height_of_rows, Graph.size]
  · exact qubits_of_graph
  intro qubit inside index below
  rw [height_z_part] at inside
  have listed : index < graph.size := by rwa [← @qubits_of_graph graph]
  rw [entry_z_part _ inside, zs_of_graph simple, Graph.adjacency, entry_of_rows,
    decide_eq_true listed, Bool.true_and]
  exact simple.2.2 index qubit

/-- Local complementation at a vertex is a layer: with a phase gate between two
Hadamard gates on the vertex and a phase gate on each neighbour, the test of
the solver succeeds between the two graphs, so the one graph state is sent onto
the other up to signs. -/
theorem complement_layer_reaches (graph : Graph) (simple : graph.Simple) (vertex : Nat)
    (inside : vertex < graph.size) :
    (graph.complementLayer vertex).reaches (.identity graph.size) graph.adjacency
        (graph.complementAt vertex) = true ∧
      Carries (graph.complementLayer vertex) (ofGraph graph)
        (ofGraph (graph.complementAt vertex)) := by
  have carries := carries_complement_at simple inside
  have reached := ((valid_of_graph simple).reaches_iff_carries
    (Graph.simple_complement_at simple vertex)).2 carries
  rw [x_part_of_graph, z_part_of_graph simple] at reached
  exact ⟨reached, carries⟩

/-- At its centre, a star becomes a complete graph. -/
theorem complement_layer_reaches_star :
    let star := Graph.ofEdges 4 [(0, 1), (0, 2), (0, 3)]
    let complete := Graph.ofEdges 4 [(0, 1), (0, 2), (0, 3), (1, 2), (1, 3), (2, 3)]
    star.complementAt 0 = complete ∧
    star.complementLayer 0 = ⟨[.hsh, .s, .s, .s]⟩ ∧
    (star.complementLayer 0).reaches (.identity 4) star.adjacency complete = true ∧
    Carries (star.complementLayer 0) (ofGraph star) (ofGraph complete) :=
  ⟨by decide, by decide, complement_layer_reaches _ (Graph.simple_of_edges _ _) 0 (by decide)⟩

end StabilizerPrep.Stabilizer
