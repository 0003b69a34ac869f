import Mathlib.Data.Fintype.EquivFin
import StabilizerPrep.Proofs.GraphCode
import StabilizerPrep.Proofs.Group
import StabilizerPrep.Proofs.LayerAction

/-!
# Graph form

Every valid stabilizer is sent onto a graph state by a layer of single-qubit
Cliffords. Hadamard gates on well-chosen qubits make the masks of the factors
`X` tell all elements apart; they are then all masks, and the elements with a
single factor `X` or `Y` are the generators of a graph state, up to phase gates.
It follows that an operator that commutes with all generators is in the group.
-/

namespace StabilizerPrep.Stabilizer

set_option autoImplicit false

open Mask StabilizerPrep.Matrix

/-- The layer sends the group of the first stabilizer onto the group of the
second, up to signs. -/
structure Carries (layer : Layer) (first second : Stabilizer) : Prop where
  source : layer.qubits = first.qubits
  target : layer.qubits = second.qubits
  contains : ∀ x z, x < 2 ^ layer.qubits → z < 2 ^ layer.qubits →
    (first.Contains x z ↔ second.Contains (layer.actX x z) (layer.actZ x z))

/-- Some layer sends the one group onto the other. -/
def LocallyEquivalent (first second : Stabilizer) : Prop :=
  ∃ layer, Carries layer first second

theorem Carries.inverse {layer : Layer} {first second : Stabilizer}
    (carries : Carries layer first second) : Carries layer.inverse second first where
  source := by rw [Layer.qubits_inverse, carries.target]
  target := by rw [Layer.qubits_inverse, carries.source]
  contains x z xBound zBound := by
    have boundX := layer.inverse.act_x_lt x z
    have boundZ := layer.inverse.act_z_lt x z
    rw [Layer.qubits_inverse] at xBound zBound boundX boundZ
    obtain ⟨sameX, sameZ⟩ := Layer.act_of_inverse xBound zBound
    rw [carries.contains _ _ boundX boundZ, sameX, sameZ]

theorem Carries.after {firstLayer secondLayer : Layer} {first second third : Stabilizer}
    (earlier : Carries firstLayer first second) (later : Carries secondLayer second third) :
    Carries (secondLayer.after firstLayer) first third where
  source := by rw [Layer.qubits_after, earlier.source]
  target := by rw [Layer.qubits_after, earlier.target, ← later.source, later.target]
  contains x z xBound zBound := by
    have same : secondLayer.qubits = firstLayer.qubits := by rw [later.source, earlier.target]
    have boundX := firstLayer.act_x_lt x z
    have boundZ := firstLayer.act_z_lt x z
    rw [Layer.qubits_after] at xBound zBound
    obtain ⟨afterX, afterZ⟩ := Layer.act_after secondLayer same x z
    rw [earlier.contains x z xBound zBound,
      later.contains _ _ (by rwa [same]) (by rwa [same]), afterX, afterZ]

theorem LocallyEquivalent.refl (stabilizer : Stabilizer) :
    LocallyEquivalent stabilizer stabilizer := by
  have qubits := Layer.qubits_identity stabilizer.qubits
  refine ⟨.identity stabilizer.qubits, qubits, qubits, ?_⟩
  rw [qubits]
  intro x z xBound zBound
  obtain ⟨sameX, sameZ⟩ := Layer.act_identity xBound zBound
  rw [sameX, sameZ]

theorem LocallyEquivalent.symm {first second : Stabilizer}
    (equivalent : LocallyEquivalent first second) : LocallyEquivalent second first := by
  obtain ⟨layer, carries⟩ := equivalent
  exact ⟨layer.inverse, carries.inverse⟩

theorem LocallyEquivalent.trans {first second third : Stabilizer}
    (earlier : LocallyEquivalent first second) (later : LocallyEquivalent second third) :
    LocallyEquivalent first third := by
  obtain ⟨firstLayer, firstCarries⟩ := earlier
  obtain ⟨secondLayer, secondCarries⟩ := later
  exact ⟨secondLayer.after firstLayer, firstCarries.after secondCarries⟩

section Graphs

variable {graph : Graph}

@[simp] theorem qubits_of_graph : (ofGraph graph).qubits = graph.size := by
  simp [ofGraph, ofGenerators, qubits, Graph.size]

theorem xs_of_graph : (ofGraph graph).xs = (List.range graph.size).map single := by
  apply List.ext_getElem
  · simp [xs, ofGraph, ofGenerators, Graph.size]
  · intro vertex _ inside
    have below : vertex < graph.neighbourhoods.length := by
      simpa [Graph.size] using inside
    simp only [xs, ofGraph, ofGenerators, List.getElem_map, List.getElem_mapIdx,
      List.getElem_range, List.length_mapIdx]
    exact Nat.mod_eq_of_lt (single_lt below)

theorem neighbourhood_lt (simple : graph.Simple) :
    ∀ mask ∈ graph.neighbourhoods, mask < 2 ^ graph.size := by
  intro mask member
  obtain ⟨vertex, inside, rfl⟩ := List.mem_iff_getElem.1 member
  have bound := simple.1 vertex
  rwa [Graph.neighbourhood, List.getD_eq_getElem _ _ inside] at bound

theorem test_bit_combine_neighbourhoods (simple : graph.Simple) (selection vertex : Nat) :
    (combine graph.neighbourhoods selection).testBit vertex =
      dot selection (graph.neighbourhood vertex) := by
  rw [test_bit_combine]
  congr 1
  apply Nat.eq_of_testBit_eq
  intro other
  have symmetric := simple.2.2 vertex other
  rw [Graph.adjacent, Graph.adjacent] at symmetric
  rw [symmetric, test_bit_of_bits, Graph.neighbourhood, List.getD_eq_getElem?_getD,
    List.getD_eq_getElem?_getD, List.getElem?_map]
  cases graph.neighbourhoods[other]? <;> simp

theorem zs_of_graph (simple : graph.Simple) : (ofGraph graph).zs = graph.neighbourhoods := by
  apply List.ext_getElem
  · simp [zs, ofGraph, ofGenerators]
  · intro vertex _ inside
    simp only [zs, ofGraph, ofGenerators, List.getElem_map, List.getElem_mapIdx,
      List.length_mapIdx]
    exact Nat.mod_eq_of_lt (neighbourhood_lt simple _ (List.getElem_mem inside))

/-- An operator is in the group of a graph state when its factors `Z` are
those that its factors `X` bring along. -/
theorem contains_of_graph_iff (simple : graph.Simple) {x z : Nat} :
    (ofGraph graph).Contains x z ↔
      x < 2 ^ graph.size ∧ combine graph.neighbourhoods x = z := by
  constructor
  · intro contained
    obtain ⟨selection, bound, sameX, sameZ⟩ := contained.exists_lt
    rw [qubits_of_graph] at bound
    rw [xs_of_graph, combine_singles, Nat.mod_eq_of_lt bound] at sameX
    rw [zs_of_graph simple] at sameZ
    rw [← sameX]
    exact ⟨bound, sameZ⟩
  · rintro ⟨bound, sameZ⟩
    refine ⟨x, ?_, ?_⟩
    · rw [xs_of_graph, combine_singles, Nat.mod_eq_of_lt bound]
    · rw [zs_of_graph simple, sameZ]

theorem contains_neighbourhood (simple : graph.Simple) {vertex : Nat}
    (inside : vertex < graph.size) :
    (ofGraph graph).Contains (single vertex) (graph.neighbourhood vertex) := by
  rw [contains_of_graph_iff simple, combine_single]
  exact ⟨single_lt inside, rfl⟩

theorem contains_of_graph_iff_test_bit (simple : graph.Simple) {x z : Nat} :
    (ofGraph graph).Contains x z ↔
      x < 2 ^ graph.size ∧ z < 2 ^ graph.size ∧
        ∀ vertex < graph.size, z.testBit vertex = dot x (graph.neighbourhood vertex) := by
  have bound := combine_lt (neighbourhood_lt simple) x
  rw [contains_of_graph_iff simple]
  constructor
  · rintro ⟨xBound, rfl⟩
    exact ⟨xBound, bound, fun vertex _ => test_bit_combine_neighbourhoods simple x vertex⟩
  · rintro ⟨xBound, zBound, bits⟩
    refine ⟨xBound, eq_of_test_bit_below bound zBound fun vertex inside => ?_⟩
    rw [test_bit_combine_neighbourhoods simple, bits vertex inside]

theorem mem_generators_of_graph (simple : graph.Simple) {generator : Generator}
    (member : generator ∈ (ofGraph graph).generators) :
    ∃ vertex < graph.size,
      generator.x = single vertex ∧ generator.z = graph.neighbourhood vertex := by
  obtain ⟨vertex, inside, rfl⟩ := List.mem_iff_getElem.1 member
  have below : vertex < graph.size := by
    rw [← @qubits_of_graph graph]
    exact inside
  have xRow : (ofGraph graph).generators[vertex].x = (ofGraph graph).xs.getD vertex 0 := by
    rw [List.getD_eq_getElem _ _ (by simpa [xs] using inside)]
    simp [xs]
  have zRow : (ofGraph graph).generators[vertex].z = (ofGraph graph).zs.getD vertex 0 := by
    rw [List.getD_eq_getElem _ _ (by simpa [zs] using inside)]
    simp [zs]
  refine ⟨vertex, below, ?_, ?_⟩
  · rw [xRow, xs_of_graph, List.getD_eq_getElem _ _ (by simpa using below)]
    simp
  · rw [zRow, zs_of_graph simple]
    rfl

theorem valid_of_graph (simple : graph.Simple) : (ofGraph graph).Valid where
  independent selection bound zeroX _ := by
    rw [qubits_of_graph] at bound
    rwa [xs_of_graph, combine_singles, Nat.mod_eq_of_lt bound] at zeroX
  isotropic first firstMember second secondMember := by
    obtain ⟨v, _, firstX, firstZ⟩ := mem_generators_of_graph simple firstMember
    obtain ⟨w, _, secondX, secondZ⟩ := mem_generators_of_graph simple secondMember
    rw [Generator.commutes_eq, firstX, firstZ, secondX, secondZ, dot_single_left,
      dot_single_right, beq_iff_eq]
    exact simple.2.2 w v

end Graphs

/-- All chosen bits below the width are zero, where the choice on each qubit is
between the bit of `x` and the bit of `z`. -/
def Vanishes (choice : Nat → Bool) (width x z : Nat) : Prop :=
  ∀ qubit < width, (if choice qubit then z.testBit qubit else x.testBit qubit) = false

section Choices

variable {choice : Nat → Bool} {width firstX firstZ secondX secondZ : Nat}

theorem Vanishes.test_bit_and (first : Vanishes choice width firstX firstZ)
    (second : Vanishes choice width secondX secondZ) {qubit : Nat} (inside : qubit < width) :
    (firstX &&& secondZ).testBit qubit = false := by
  have firstBit := first qubit inside
  have secondBit := second qubit inside
  rw [Nat.testBit_and]
  cases chosen : choice qubit <;>
    simp only [chosen, Bool.false_eq_true, if_false, if_true] at firstBit secondBit
  · rw [firstBit, Bool.false_and]
  · rw [secondBit, Bool.and_false]

/-- Of two operators that vanish up to one qubit, a factor `Z` of the one and a
factor `X` of the other on that qubit do not commute. -/
theorem Vanishes.dot_ne (first : Vanishes choice width firstX firstZ)
    (second : Vanishes choice width secondX secondZ) (xBound : firstX < 2 ^ (width + 1))
    (zBound : firstZ < 2 ^ (width + 1)) (absent : firstX.testBit width = false)
    (present : firstZ.testBit width = true) (met : secondX.testBit width = true) :
    dot firstX secondZ ≠ dot firstZ secondX := by
  have even : firstX &&& secondZ = 0 := by
    apply eq_of_test_bit_below (Nat.lt_of_le_of_lt Nat.and_le_left xBound) (Nat.two_pow_pos _)
    intro qubit inside
    rw [Nat.zero_testBit]
    rcases Nat.lt_succ_iff_lt_or_eq.1 inside with below | rfl
    · exact first.test_bit_and second below
    · rw [Nat.testBit_and, absent, Bool.false_and]
  have odd : firstZ &&& secondX = single width := by
    apply eq_of_test_bit_below (Nat.lt_of_le_of_lt Nat.and_le_left zBound)
      (single_lt (Nat.lt_succ_self width))
    intro qubit inside
    rw [test_bit_single]
    rcases Nat.lt_succ_iff_lt_or_eq.1 inside with below | rfl
    · rw [Nat.and_comm, second.test_bit_and first below, decide_eq_false (Nat.ne_of_gt below)]
    · rw [Nat.testBit_and, present, met, Bool.and_true, decide_eq_true rfl]
  rw [dot, dot, even, odd, parity_zero, parity_single]
  decide

theorem vanishes_update_iff {value : Bool} {x z : Nat} :
    Vanishes (Function.update choice width value) (width + 1) x z ↔
      Vanishes choice width x z ∧ (if value then z.testBit width else x.testBit width) = false := by
  rw [Vanishes, Nat.forall_lt_succ_right, Function.update_self, Vanishes]
  refine and_congr_left' (forall_congr' fun qubit => imp_congr_right fun inside => ?_)
  rw [Function.update_of_ne (Nat.ne_of_lt inside)]

end Choices

/-- Of the elements that are the identity from the width on, only the identity
vanishes. -/
def Separates (stabilizer : Stabilizer) (choice : Nat → Bool) (width : Nat) : Prop :=
  ∀ x z, stabilizer.Contains x z → x < 2 ^ width → z < 2 ^ width →
    Vanishes choice width x z → x = 0 ∧ z = 0

variable {stabilizer : Stabilizer}

theorem Separates.exists_of_not {choice : Nat → Bool} {width : Nat}
    (separates : stabilizer.Separates choice width) {value : Bool}
    (failing : ¬stabilizer.Separates (Function.update choice width value) (width + 1)) :
    ∃ x z, stabilizer.Contains x z ∧ (x < 2 ^ (width + 1) ∧ z < 2 ^ (width + 1)) ∧
      Vanishes choice width x z ∧ x.testBit width = value ∧ z.testBit width = !value := by
  simp only [Separates, vanishes_update_iff, not_forall] at failing
  obtain ⟨x, z, contained, xBound, zBound, ⟨below, last⟩, nontrivial⟩ := failing
  have present : ¬(x.testBit width = false ∧ z.testBit width = false) := by
    rintro ⟨xAbsent, zAbsent⟩
    exact nontrivial (separates x z contained (lt_of_test_bit_last xBound xAbsent)
      (lt_of_test_bit_last zBound zAbsent) below)
  refine ⟨x, z, contained, ⟨xBound, zBound⟩, below, ?_⟩
  cases value <;> cases xBit : x.testBit width <;> cases zBit : z.testBit width <;> simp_all

/-- On each qubit one of the two bits can be chosen so that no element other
than the identity is zero in all chosen bits. The choice is made qubit by
qubit, for the elements that are the identity on all later qubits. -/
theorem Valid.exists_separates (valid : stabilizer.Valid) (width : Nat) :
    ∃ choice, stabilizer.Separates choice width := by
  induction width with
  | zero =>
      refine ⟨fun _ => false, fun x z _ xBound zBound _ => ?_⟩
      exact ⟨Nat.lt_one_iff.1 xBound, Nat.lt_one_iff.1 zBound⟩
  | succ width ih =>
      obtain ⟨choice, separates⟩ := ih
      by_contra none
      have failing : ∀ value, ¬stabilizer.Separates (Function.update choice width value)
          (width + 1) := fun value continued => none ⟨_, continued⟩
      -- the failures of the two continuations do not commute
      obtain ⟨firstX, firstZ, firstIn, bounds, firstBelow, absent, present⟩ :=
        separates.exists_of_not (failing false)
      obtain ⟨secondX, secondZ, secondIn, -, secondBelow, met, -⟩ :=
        separates.exists_of_not (failing true)
      exact firstBelow.dot_ne secondBelow bounds.1 bounds.2 absent present met
        (valid.dot_eq firstIn secondIn)

/-- Hadamard gates on some qubits bring a single factor `X` to each qubit in
turn. -/
theorem Valid.exists_spanning_layer (valid : stabilizer.Valid) :
    ∃ layer : Layer, layer.qubits = stabilizer.qubits ∧
      ∀ mask < 2 ^ stabilizer.qubits,
        ∃ x z, stabilizer.Contains x z ∧ layer.actX x z = mask := by
  obtain ⟨choice, apart⟩ := valid.exists_separates stabilizer.qubits
  let layer := Layer.ofChoice stabilizer.qubits fun qubit =>
    if choice qubit then LocalClifford.h else LocalClifford.i
  have qubits : layer.qubits = stabilizer.qubits := Layer.qubits_of_choice _ _
  have bit : ∀ x z, ∀ qubit < stabilizer.qubits, (layer.actX x z).testBit qubit =
      if choice qubit then z.testBit qubit else x.testBit qubit := by
    intro x z qubit inside
    rw [Layer.test_bit_act_x (by rwa [qubits]), Layer.clifford_of_choice inside]
    cases choice qubit <;> cases x.testBit qubit <;> cases z.testBit qubit <;> rfl
  have bound : ∀ x z, layer.actX x z < 2 ^ stabilizer.qubits := by
    intro x z
    rw [← qubits]
    exact layer.act_x_lt x z
  let image : Fin (2 ^ stabilizer.qubits) → Fin (2 ^ stabilizer.qubits) :=
    fun selection =>
      ⟨layer.actX (combine stabilizer.xs selection) (combine stabilizer.zs selection),
        bound _ _⟩
  have injective : Function.Injective image := by
    intro first second same
    have difference : layer.actX (combine stabilizer.xs (first.val ^^^ second.val))
        (combine stabilizer.zs (first.val ^^^ second.val)) = 0 := by
      rw [combine_xor, combine_xor, Layer.act_x_xor]
      exact Nat.xor_eq_zero_iff.2 (congrArg Fin.val same)
    have contained : stabilizer.Contains (combine stabilizer.xs (first.val ^^^ second.val))
        (combine stabilizer.zs (first.val ^^^ second.val)) := ⟨_, rfl, rfl⟩
    obtain ⟨zeroX, zeroZ⟩ := apart _ _ contained contained.bounded.1 contained.bounded.2 (by
      intro qubit inside
      rw [← bit _ _ qubit inside, difference, Nat.zero_testBit])
    have zero := valid.independent _ (Nat.xor_lt_two_pow first.isLt second.isLt) zeroX zeroZ
    exact Fin.ext (Nat.xor_eq_zero_iff.1 zero)
  refine ⟨layer, qubits, ?_⟩
  intro mask maskBound
  obtain ⟨selection, found⟩ := (Finite.injective_iff_surjective.1 injective) ⟨mask, maskBound⟩
  exact ⟨_, _, ⟨selection, rfl, rfl⟩, congrArg Fin.val found⟩

/-- The graph whose neighbourhoods are the factors `Z` of the images of given
elements. -/
def imageGraph (layer : Layer) (xs zs : Nat → Nat) : Graph :=
  ⟨(List.range layer.qubits).map fun qubit => layer.actZ (xs qubit) (zs qubit)⟩

/-- One element of the group for each qubit, whose image has its only factor `X`
there, and no factor `Y`. -/
structure Frame (layer : Layer) (stabilizer : Stabilizer) (xs zs : Nat → Nat) : Prop where
  source : layer.qubits = stabilizer.qubits
  contained : ∀ qubit < layer.qubits, stabilizer.Contains (xs qubit) (zs qubit)
  alone : ∀ qubit < layer.qubits, layer.actX (xs qubit) (zs qubit) = single qubit
  clean : ∀ qubit < layer.qubits, (layer.actZ (xs qubit) (zs qubit)).testBit qubit = false

section Frames

variable {layer : Layer} {xs zs : Nat → Nat}

@[simp] theorem size_image_graph : (imageGraph layer xs zs).size = layer.qubits := by
  simp [imageGraph, Graph.size]

theorem neighbourhood_image_graph {vertex : Nat} (inside : vertex < layer.qubits) :
    (imageGraph layer xs zs).neighbourhood vertex = layer.actZ (xs vertex) (zs vertex) := by
  simp [Graph.neighbourhood, imageGraph, List.getD_eq_getElem?_getD, inside]

theorem Frame.bounded (frame : Frame layer stabilizer xs zs) {x z : Nat}
    (contained : stabilizer.Contains x z) :
    x < 2 ^ layer.qubits ∧ z < 2 ^ layer.qubits := by
  rw [frame.source]
  exact contained.bounded

/-- The factors `Z` of the image of a member are determined by its factors `X`,
since the member commutes with the frame. -/
theorem Frame.test_bit_act_z (frame : Frame layer stabilizer xs zs) (valid : stabilizer.Valid)
    {x z : Nat} (contained : stabilizer.Contains x z) {qubit : Nat}
    (inside : qubit < layer.qubits) :
    (layer.actZ x z).testBit qubit =
      dot (layer.actX x z) ((imageGraph layer xs zs).neighbourhood qubit) := by
  have element := frame.contained qubit inside
  have sent := frame.bounded contained
  have commuting := (Layer.dot_act_iff sent.1 sent.2).2 (valid.dot_eq contained element)
  rw [frame.alone qubit inside, dot_single_right] at commuting
  rw [neighbourhood_image_graph inside, commuting]

theorem Frame.simple (frame : Frame layer stabilizer xs zs) (valid : stabilizer.Valid) :
    (imageGraph layer xs zs).Simple := by
  rw [Graph.simple_iff_below, size_image_graph]
  refine ⟨?_, ?_, ?_⟩
  · intro vertex inside
    rw [neighbourhood_image_graph inside]
    exact layer.act_z_lt _ _
  · intro vertex inside
    rw [Graph.adjacent, neighbourhood_image_graph inside]
    exact frame.clean vertex inside
  · intro first firstInside second secondInside
    have bit := frame.test_bit_act_z valid (frame.contained first firstInside) secondInside
    rwa [frame.alone first firstInside, dot_single_left,
      ← neighbourhood_image_graph firstInside] at bit

theorem Frame.exists_sum (frame : Frame layer stabilizer xs zs) {mask : Nat}
    (bound : mask < 2 ^ layer.qubits) :
    ∃ x z, stabilizer.Contains x z ∧ layer.actX x z = mask ∧
      layer.actZ x z = combine (imageGraph layer xs zs).neighbourhoods mask := by
  refine ⟨_, _, contains_combine (fun qubit member =>
    frame.contained qubit (List.mem_range.1 member)) mask, ?_, Layer.act_z_combine layer _ _ _ _⟩
  rw [Layer.act_x_combine, List.map_congr_left fun qubit member =>
    frame.alone qubit (List.mem_range.1 member), combine_singles]
  exact Nat.mod_eq_of_lt bound

/-- The elements of a frame are sent to the generators of a graph state. -/
theorem Frame.carries (frame : Frame layer stabilizer xs zs) (valid : stabilizer.Valid) :
    Carries layer stabilizer (ofGraph (imageGraph layer xs zs)) where
  source := frame.source
  target := by rw [qubits_of_graph, size_image_graph]
  contains x z xBound zBound := by
    have simple := frame.simple valid
    constructor
    · intro contained
      rw [contains_of_graph_iff_test_bit simple, size_image_graph]
      exact ⟨layer.act_x_lt x z, layer.act_z_lt x z,
        fun qubit => frame.test_bit_act_z valid contained⟩
    · intro imageIn
      -- a sum of elements of the frame has the same image, so it is the operator
      obtain ⟨imageBound, same⟩ := (contains_of_graph_iff simple).1 imageIn
      rw [size_image_graph] at imageBound
      obtain ⟨sumX, sumZ, sumIn, sameX, sameZ⟩ := frame.exists_sum imageBound
      obtain ⟨rfl, rfl⟩ := Layer.act_injective (frame.bounded sumIn) ⟨xBound, zBound⟩ sameX
        (sameZ.trans same)
      exact sumIn

end Frames

/-- Every valid stabilizer is sent onto a graph state by some layer. -/
theorem Valid.exists_graph (valid : stabilizer.Valid) :
    ∃ (layer : Layer) (graph : Graph), graph.Simple ∧
      Carries layer stabilizer (ofGraph graph) := by
  obtain ⟨first, qubits, spanning⟩ := valid.exists_spanning_layer
  have elements : ∀ qubit, ∃ x z, qubit < stabilizer.qubits →
      stabilizer.Contains x z ∧ first.actX x z = single qubit := by
    intro qubit
    by_cases inside : qubit < stabilizer.qubits
    · obtain ⟨x, z, contained, alone⟩ := spanning (single qubit) (single_lt inside)
      exact ⟨x, z, fun _ => ⟨contained, alone⟩⟩
    · exact ⟨0, 0, fun impossible => absurd impossible inside⟩
  choose xs zs properties using elements
  -- phase gates turn the remaining factors `Y` into factors `X`
  let second := Layer.ofChoice stabilizer.qubits fun qubit =>
    if (first.actZ (xs qubit) (zs qubit)).testBit qubit then LocalClifford.s else LocalClifford.i
  have same : second.qubits = first.qubits := by
    rw [qubits]
    exact Layer.qubits_of_choice _ _
  have keeps : ∀ x z, second.actX x z = x % 2 ^ stabilizer.qubits := by
    intro x z
    have bound := second.act_x_lt x z
    rw [same, qubits] at bound
    apply eq_of_test_bit_below bound (Nat.mod_lt x (Nat.two_pow_pos _))
    intro qubit inside
    rw [Layer.test_bit_act_x (by rwa [same, qubits]), Layer.clifford_of_choice inside,
      Nat.testBit_mod_two_pow]
    simp only [inside]
    split <;> cases x.testBit qubit <;> cases z.testBit qubit <;> rfl
  have afterX : ∀ x z, (second.after first).actX x z = first.actX x z := by
    intro x z
    rw [(Layer.act_after second same x z).1, keeps, ← qubits]
    exact Nat.mod_eq_of_lt (first.act_x_lt x z)
  have layerQubits : (second.after first).qubits = stabilizer.qubits := by
    rw [Layer.qubits_after, qubits]
  have frame : Frame (second.after first) stabilizer xs zs := by
    refine ⟨layerQubits, ?_, ?_, ?_⟩ <;> rw [layerQubits] <;> intro qubit inside
    · exact (properties qubit inside).1
    · rw [afterX]
      exact (properties qubit inside).2
    · rw [(Layer.act_after second same _ _).2, Layer.test_bit_act_z (by rwa [same, qubits]),
        Layer.clifford_of_choice inside, (properties qubit inside).2, test_bit_single]
      cases (first.actZ (xs qubit) (zs qubit)).testBit qubit <;> simp <;> rfl
  exact ⟨second.after first, _, frame.simple valid, frame.carries valid⟩

theorem Valid.contains_of_commutes (valid : stabilizer.Valid) {x z : Nat}
    (xBound : x < 2 ^ stabilizer.qubits) (zBound : z < 2 ^ stabilizer.qubits)
    (commuting : ∀ generator ∈ stabilizer.generators, dot x generator.z = dot z generator.x) :
    stabilizer.Contains x z := by
  obtain ⟨layer, graph, simple, carries⟩ := valid.exists_graph
  have size : graph.size = layer.qubits := by rw [carries.target, qubits_of_graph]
  rw [← carries.source] at xBound zBound
  rw [carries.contains x z xBound zBound, contains_of_graph_iff_test_bit simple, size]
  refine ⟨layer.act_x_lt x z, layer.act_z_lt x z, fun vertex inside => ?_⟩
  -- the generator of the graph state at this vertex comes from the group
  have generatorIn := contains_neighbourhood simple (by rwa [size])
  have bounds := generatorIn.bounded
  rw [← carries.target] at bounds
  obtain ⟨sameX, sameZ⟩ := Layer.act_of_inverse bounds.1 bounds.2
  have sourceIn := (carries.inverse.contains _ _ (by simpa using bounds.1)
    (by simpa using bounds.2)).1 generatorIn
  have form := (Layer.dot_act_iff xBound zBound).2
    (dot_eq_of_commutes_generators commuting sourceIn)
  rw [sameX, sameZ, dot_single_right] at form
  exact form.symm

theorem Valid.carries_of_generators {first second : Stabilizer} (firstValid : first.Valid)
    (secondValid : second.Valid) {layer : Layer} (source : layer.qubits = first.qubits)
    (target : layer.qubits = second.qubits)
    (sent : ∀ generator ∈ first.generators,
      second.Contains (layer.actX generator.x generator.z)
        (layer.actZ generator.x generator.z)) : Carries layer first second where
  source := source
  target := target
  contains x z xBound zBound := by
    constructor
    · rintro ⟨selection, rfl, rfl⟩
      rw [xs, zs, Layer.act_x_combine, Layer.act_z_combine]
      exact contains_combine sent selection
    · intro imageIn
      rw [source] at xBound zBound
      apply firstValid.contains_of_commutes xBound zBound
      intro generator member
      rw [← source] at xBound zBound
      exact (Layer.dot_act_iff xBound zBound).1 (secondValid.dot_eq imageIn (sent generator member))

end StabilizerPrep.Stabilizer
