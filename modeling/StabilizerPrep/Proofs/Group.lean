import StabilizerPrep.Proofs.LinearSystems
import StabilizerPrep.Proofs.MatrixEntries
import StabilizerPrep.Proofs.PauliProduct
import StabilizerPrep.Stabilizer.Group

/-!
# The group of a stabilizer

Up to signs, the elements of the group are the sums of generator masks.
Validity says that no two selections have the same sum and that all elements
commute. Looking an operator up in the group finds a selection of generators
whose product is the operator with the sign that is reported.
-/

namespace StabilizerPrep.Generator

set_option autoImplicit false

open Mask

theorem commutes_eq (first second : Generator) :
    first.commutes second = (dot first.x second.z == dot first.z second.x) :=
  Pauli.commutes_eq (first.toPauli 0) (second.toPauli 0)

end StabilizerPrep.Generator

namespace StabilizerPrep.Stabilizer

set_option autoImplicit false

open Mask StabilizerPrep.Matrix

def xs (stabilizer : Stabilizer) : List Nat :=
  stabilizer.generators.map (·.x)

def zs (stabilizer : Stabilizer) : List Nat :=
  stabilizer.generators.map (·.z)

/-- Up to sign, the operator with these masks is a product of generators. -/
def Contains (stabilizer : Stabilizer) (x z : Nat) : Prop :=
  ∃ selection, combine stabilizer.xs selection = x ∧ combine stabilizer.zs selection = z

/-- The generators are independent and commute. -/
structure Valid (stabilizer : Stabilizer) : Prop where
  independent : ∀ selection < 2 ^ stabilizer.qubits,
    combine stabilizer.xs selection = 0 → combine stabilizer.zs selection = 0 → selection = 0
  isotropic : ∀ first ∈ stabilizer.generators, ∀ second ∈ stabilizer.generators,
    first.commutes second = true

variable (stabilizer : Stabilizer)

@[simp] theorem length_xs : stabilizer.xs.length = stabilizer.qubits := by
  simp [xs, qubits]

@[simp] theorem length_zs : stabilizer.zs.length = stabilizer.qubits := by
  simp [zs, qubits]

theorem xs_lt : ∀ row ∈ stabilizer.xs, row < 2 ^ stabilizer.qubits := by
  intro row member
  obtain ⟨generator, generatorMember, rfl⟩ := List.mem_map.1 member
  exact (stabilizer.bounded generator generatorMember).1

theorem zs_lt : ∀ row ∈ stabilizer.zs, row < 2 ^ stabilizer.qubits := by
  intro row member
  obtain ⟨generator, generatorMember, rfl⟩ := List.mem_map.1 member
  exact (stabilizer.bounded generator generatorMember).2

variable {stabilizer}

theorem Contains.bounded {x z : Nat} (contained : stabilizer.Contains x z) :
    x < 2 ^ stabilizer.qubits ∧ z < 2 ^ stabilizer.qubits := by
  obtain ⟨selection, rfl, rfl⟩ := contained
  exact ⟨combine_lt stabilizer.xs_lt selection, combine_lt stabilizer.zs_lt selection⟩

theorem Contains.xor {firstX firstZ secondX secondZ : Nat}
    (first : stabilizer.Contains firstX firstZ) (second : stabilizer.Contains secondX secondZ) :
    stabilizer.Contains (firstX ^^^ secondX) (firstZ ^^^ secondZ) := by
  obtain ⟨firstSelection, rfl, rfl⟩ := first
  obtain ⟨secondSelection, rfl, rfl⟩ := second
  exact ⟨firstSelection ^^^ secondSelection, combine_xor _ _ _, combine_xor _ _ _⟩

theorem contains_zero : stabilizer.Contains 0 0 :=
  ⟨0, combine_zero _, combine_zero _⟩

theorem contains_combine {α : Type} {items : List α} {xs zs : α → Nat}
    (contained : ∀ item ∈ items, stabilizer.Contains (xs item) (zs item)) (selection : Nat) :
    stabilizer.Contains (combine (items.map xs) selection) (combine (items.map zs) selection) := by
  induction items generalizing selection with
  | nil => exact contains_zero
  | cons item items ih =>
      have rest := ih (fun other member => contained other (List.mem_cons_of_mem _ member))
        (selection / 2)
      simp only [List.map_cons, combine]
      cases selection.testBit 0
      · simpa using rest
      · exact (contained item List.mem_cons_self).xor rest

/-- What holds of the generators and is kept by products holds of the group. -/
theorem Contains.induction (holds : Nat → Nat → Prop) (zero : holds 0 0)
    (xor : ∀ {x z otherX otherZ}, holds x z → holds otherX otherZ →
      holds (x ^^^ otherX) (z ^^^ otherZ))
    (generators : ∀ generator ∈ stabilizer.generators, holds generator.x generator.z)
    {x z : Nat} (contained : stabilizer.Contains x z) : holds x z := by
  obtain ⟨selection, rfl, rfl⟩ := contained
  rw [xs, zs]
  generalize stabilizer.generators = list at generators ⊢
  induction list generalizing selection with
  | nil => exact zero
  | cons generator list ih =>
      have rest := ih (selection / 2)
        (fun other member => generators other (List.mem_cons_of_mem _ member))
      simp only [List.map_cons, combine]
      cases selection.testBit 0
      · simpa using rest
      · exact xor (generators generator List.mem_cons_self) rest

theorem Contains.exists_lt {x z : Nat} (contained : stabilizer.Contains x z) :
    ∃ selection < 2 ^ stabilizer.qubits,
      combine stabilizer.xs selection = x ∧ combine stabilizer.zs selection = z := by
  obtain ⟨selection, rfl, rfl⟩ := contained
  refine ⟨selection % 2 ^ stabilizer.qubits, Nat.mod_lt _ (Nat.two_pow_pos _), ?_, ?_⟩
  · rw [← length_xs, combine_mod]
  · rw [← length_zs, combine_mod]

theorem contains_generator {generator : Generator}
    (member : generator ∈ stabilizer.generators) :
    stabilizer.Contains generator.x generator.z := by
  obtain ⟨position, inside, rfl⟩ := List.mem_iff_getElem.1 member
  refine ⟨single position, ?_, ?_⟩
  · rw [combine_single, xs, List.getD_eq_getElem _ _ (by simpa using inside), List.getElem_map]
  · rw [combine_single, zs, List.getD_eq_getElem _ _ (by simpa using inside), List.getElem_map]

theorem Valid.selection_eq (valid : stabilizer.Valid) {first second : Nat}
    (firstBound : first < 2 ^ stabilizer.qubits)
    (secondBound : second < 2 ^ stabilizer.qubits)
    (sameX : combine stabilizer.xs first = combine stabilizer.xs second)
    (sameZ : combine stabilizer.zs first = combine stabilizer.zs second) : first = second := by
  have zero := valid.independent (first ^^^ second) (Nat.xor_lt_two_pow firstBound secondBound)
    (by rw [combine_xor, sameX, Nat.xor_self]) (by rw [combine_xor, sameZ, Nat.xor_self])
  exact Nat.xor_eq_zero_iff.1 zero

theorem dot_eq_of_commutes_generators {x z : Nat}
    (commuting : ∀ generator ∈ stabilizer.generators, dot x generator.z = dot z generator.x)
    {otherX otherZ : Nat} (contained : stabilizer.Contains otherX otherZ) :
    dot x otherZ = dot z otherX := by
  obtain ⟨selection, rfl, rfl⟩ := contained
  rw [dot_comm x, dot_comm z, dot_combine, dot_combine]
  congr 2
  simp only [xs, zs, List.map_map]
  apply List.map_congr_left
  intro generator member
  have equation := commuting generator member
  rw [dot_comm x, dot_comm z] at equation
  exact equation

theorem dot_eq_of_isotropic
    (isotropic : ∀ first ∈ stabilizer.generators, ∀ second ∈ stabilizer.generators,
      first.commutes second = true)
    {firstX firstZ secondX secondZ : Nat} (first : stabilizer.Contains firstX firstZ)
    (second : stabilizer.Contains secondX secondZ) : dot firstX secondZ = dot firstZ secondX := by
  refine dot_eq_of_commutes_generators (fun generator member => ?_) second
  have swapped : dot generator.x firstZ = dot generator.z firstX := by
    refine dot_eq_of_commutes_generators (fun other otherMember => ?_) first
    have commutes := isotropic generator member other otherMember
    rwa [Generator.commutes_eq, beq_iff_eq] at commutes
  rw [dot_comm firstX, dot_comm firstZ, swapped]

theorem Valid.dot_eq (valid : stabilizer.Valid) {firstX firstZ secondX secondZ : Nat}
    (first : stabilizer.Contains firstX firstZ) (second : stabilizer.Contains secondX secondZ) :
    dot firstX secondZ = dot firstZ secondX :=
  dot_eq_of_isotropic valid.isotropic first second

variable (stabilizer)

theorem x_part_eq_of_columns : stabilizer.xPart = ofColumns stabilizer.xs := by
  rw [xPart, ofColumns, length_xs]
  simp only [xs, List.map_map]
  rfl

theorem z_part_eq_of_columns : stabilizer.zPart = ofColumns stabilizer.zs := by
  rw [zPart, ofColumns, length_zs]
  simp only [zs, List.map_map]
  rfl

theorem rows_check_matrix :
    stabilizer.checkMatrix.rows =
      (List.range stabilizer.qubits).map (fun qubit =>
        ofBits (stabilizer.xs.map (·.testBit qubit))) ++
      (List.range stabilizer.qubits).map (fun qubit =>
        ofBits (stabilizer.zs.map (·.testBit qubit))) := by
  have xRows := rows_of_columns stabilizer.xs
  have zRows := rows_of_columns stabilizer.zs
  rw [← x_part_eq_of_columns, length_xs] at xRows
  rw [← z_part_eq_of_columns, length_zs] at zRows
  rw [checkMatrix, stack, ← xRows, ← zRows]
  apply rows_of_rows
  intro row member
  rcases List.mem_append.1 member with inX | inZ
  · exact stabilizer.xPart.bounded row inX
  · exact stabilizer.zPart.bounded row inZ

theorem columns_check_matrix : stabilizer.checkMatrix.columns = stabilizer.qubits := rfl

theorem height_check_matrix :
    stabilizer.checkMatrix.height = stabilizer.qubits + stabilizer.qubits := by
  rw [height, rows_check_matrix]
  simp

theorem check_matrix_solves_iff {x z : Nat} (xBound : x < 2 ^ stabilizer.qubits)
    (zBound : z < 2 ^ stabilizer.qubits) (selection : Nat) :
    (∀ i < stabilizer.checkMatrix.height, dot (stabilizer.checkMatrix.rows.getD i 0) selection =
        (x + 2 ^ stabilizer.qubits * z).testBit i) ↔
      combine stabilizer.xs selection = x ∧ combine stabilizer.zs selection = z := by
  have lower : ∀ qubit < stabilizer.qubits,
      dot (stabilizer.checkMatrix.rows.getD qubit 0) selection =
        (combine stabilizer.xs selection).testBit qubit := by
    intro qubit inside
    rw [rows_check_matrix, List.getD_eq_getElem?_getD,
      List.getElem?_append_left (by simpa using inside), test_bit_combine, dot_comm]
    simp [inside]
  have upper : ∀ qubit < stabilizer.qubits,
      dot (stabilizer.checkMatrix.rows.getD (stabilizer.qubits + qubit) 0) selection =
        (combine stabilizer.zs selection).testBit qubit := by
    intro qubit inside
    rw [rows_check_matrix, List.getD_eq_getElem?_getD,
      List.getElem?_append_right (by simp), test_bit_combine, dot_comm]
    simp [inside]
  rw [height_check_matrix]
  constructor
  · intro solves
    constructor
    · apply eq_of_test_bit_below (combine_lt stabilizer.xs_lt selection) xBound
      intro qubit inside
      rw [← lower qubit inside, solves qubit (by omega), test_bit_beside xBound, if_pos inside]
    · apply eq_of_test_bit_below (combine_lt stabilizer.zs_lt selection) zBound
      intro qubit inside
      rw [← upper qubit inside, solves _ (by omega), test_bit_beside xBound, if_neg (by omega),
        Nat.add_sub_cancel_left]
  · rintro ⟨sameX, sameZ⟩ i inside
    rw [test_bit_beside xBound]
    by_cases below : i < stabilizer.qubits
    · rw [if_pos below, lower i below, sameX]
    · obtain ⟨qubit, rfl⟩ := Nat.exists_eq_add_of_le (Nat.le_of_not_lt below)
      rw [if_neg below, upper qubit (by omega), sameZ, Nat.add_sub_cancel_left]

theorem kills_check_matrix_iff (selection : Nat) :
    Kills stabilizer.checkMatrix.rows selection ↔
      combine stabilizer.xs selection = 0 ∧ combine stabilizer.zs selection = 0 := by
  have positive := Nat.two_pow_pos stabilizer.qubits
  rw [← stabilizer.check_matrix_solves_iff positive positive selection, Nat.mul_zero]
  constructor
  · intro killed i inside
    rw [List.getD_eq_getElem _ _ inside, killed _ (List.getElem_mem inside), Nat.zero_testBit]
  · intro zero row member
    obtain ⟨i, inside, rfl⟩ := List.mem_iff_getElem.1 member
    have even := zero i inside
    rwa [List.getD_eq_getElem _ _ inside, Nat.zero_testBit] at even

theorem rank_check_matrix_iff : stabilizer.checkMatrix.rank = stabilizer.qubits ↔
    ∀ selection < 2 ^ stabilizer.qubits, combine stabilizer.xs selection = 0 →
      combine stabilizer.zs selection = 0 → selection = 0 := by
  rw [← columns_check_matrix, rank_eq_columns_iff, columns_check_matrix]
  simp only [kills_check_matrix_iff, and_imp]

/-- Validation accepts exactly the independent commuting generators. -/
theorem validate_eq_ok_iff : stabilizer.validate = .ok () ↔ stabilizer.Valid := by
  have commuting : stabilizer.commutesWith stabilizer = true ↔
      ∀ first ∈ stabilizer.generators, ∀ second ∈ stabilizer.generators,
        first.commutes second = true := by
    simp only [commutesWith, List.all_eq_true]
  unfold validate
  simp only
  split
  next deficient =>
      constructor
      · intro impossible
        cases impossible
      · intro valid
        exact absurd (stabilizer.rank_check_matrix_iff.2 valid.independent) deficient
  next complete =>
      split
      next commutes =>
          have independent := stabilizer.rank_check_matrix_iff.1 (not_not.1 complete)
          exact ⟨fun _ => ⟨independent, commuting.1 commutes⟩, fun _ => rfl⟩
      next clash =>
          constructor
          · intro impossible
            cases impossible
          · intro valid
            exact absurd (commuting.2 valid.isotropic) clash

@[simp] theorem length_paulis : stabilizer.paulis.length = stabilizer.qubits := by
  simp [paulis, qubits]

theorem qubits_paulis : ∀ pauli ∈ stabilizer.paulis, pauli.qubits = stabilizer.qubits := by
  intro pauli member
  obtain ⟨generator, _, rfl⟩ := List.mem_map.1 member
  rfl

theorem product_eq_choose (selection : Nat) :
    stabilizer.product selection =
      Pauli.choose stabilizer.qubits stabilizer.paulis selection := by
  have run : ∀ (paulis : List Pauli) (offset : Nat) (start : Pauli),
      (∀ pauli ∈ paulis, pauli.qubits = stabilizer.qubits) →
      ((paulis.zipIdx offset).filter fun entry => selection.testBit entry.2).foldl
          (fun result entry => result * entry.1) start =
        start * Pauli.choose stabilizer.qubits paulis (selection >>> offset) := by
    intro paulis
    induction paulis with
    | nil =>
        intro offset start _
        exact (Pauli.mul_identity start stabilizer.qubits).symm
    | cons pauli others ih =>
        intro offset start sizes
        have later := fun other member => sizes other (List.mem_cons_of_mem pauli member)
        have half : (selection >>> offset) / 2 = selection >>> (offset + 1) := by
          rw [Nat.shiftRight_succ]
        rw [List.zipIdx_cons, List.filter_cons, Pauli.choose, half, Nat.testBit_shiftRight,
          Nat.add_zero]
        simp only
        cases selection.testBit offset
        · simp only [Bool.false_eq_true, if_false]
          rw [ih (offset + 1) start later, Pauli.identity_mul (Pauli.qubits_choose later _)]
        · simp only [if_true, List.foldl_cons]
          rw [ih (offset + 1) _ later, Pauli.mul_assoc]
  have sizes := stabilizer.qubits_paulis
  refine (run _ 0 _ sizes).trans ?_
  rw [Nat.shiftRight_zero, Pauli.identity_mul (Pauli.qubits_choose sizes _)]

theorem map_x_paulis : stabilizer.paulis.map (·.x) = stabilizer.xs := by
  simp [paulis, xs, Generator.toPauli, Pauli.ofMasks, Function.comp_def]

theorem map_z_paulis : stabilizer.paulis.map (·.z) = stabilizer.zs := by
  simp [paulis, zs, Generator.toPauli, Pauli.ofMasks, Function.comp_def]

variable {stabilizer}

theorem sign_in_group_some {x z : Nat} {negative : Bool}
    (xBound : x < 2 ^ stabilizer.qubits) (zBound : z < 2 ^ stabilizer.qubits)
    (found : stabilizer.signInGroup x z = some negative) :
    ∃ selection < 2 ^ stabilizer.qubits,
      Pauli.choose stabilizer.qubits stabilizer.paulis selection =
        .ofMasks stabilizer.qubits x z negative := by
  unfold signInGroup at found
  simp only [Nat.mod_eq_of_lt xBound, Nat.mod_eq_of_lt zBound] at found
  obtain ⟨selection, solved, signed⟩ := Option.bind_eq_some_iff.1 found
  obtain ⟨bound, equations⟩ := solve_some _ solved
  refine ⟨selection, bound, ?_⟩
  obtain ⟨sameX, sameZ⟩ := (stabilizer.check_matrix_solves_iff xBound zBound selection).1 equations
  obtain ⟨chosenX, chosenZ⟩ := Pauli.choose_masks stabilizer.qubits stabilizer.paulis selection
  rw [map_x_paulis, sameX] at chosenX
  rw [map_z_paulis, sameZ] at chosenZ
  rw [product_eq_choose] at signed
  rw [Pauli.eq_of_masks_of_sign signed, chosenX, chosenZ,
    Pauli.qubits_choose stabilizer.qubits_paulis]

theorem Valid.commuting (valid : stabilizer.Valid) :
    Pauli.Commuting stabilizer.qubits stabilizer.paulis where
  size := stabilizer.qubits_paulis
  involutive pauli member := by
    obtain ⟨generator, _, rfl⟩ := List.mem_map.1 member
    exact Pauli.of_masks_mul_self _ _ _ _
  commute first firstMember second secondMember := by
    obtain ⟨firstGenerator, firstIn, rfl⟩ := List.mem_map.1 firstMember
    obtain ⟨secondGenerator, secondIn, rfl⟩ := List.mem_map.1 secondMember
    exact valid.isotropic firstGenerator firstIn secondGenerator secondIn

/-- Every product of generators is found with its sign. -/
theorem Valid.sign_in_group_choose (valid : stabilizer.Valid) {x z selection : Nat}
    {negative : Bool} (xBound : x < 2 ^ stabilizer.qubits)
    (zBound : z < 2 ^ stabilizer.qubits)
    (selectionBound : selection < 2 ^ stabilizer.qubits)
    (chosen : Pauli.choose stabilizer.qubits stabilizer.paulis selection =
      .ofMasks stabilizer.qubits x z negative) :
    stabilizer.signInGroup x z = some negative := by
  obtain ⟨chosenX, chosenZ⟩ := Pauli.choose_masks stabilizer.qubits stabilizer.paulis selection
  rw [map_x_paulis, chosen] at chosenX
  rw [map_z_paulis, chosen] at chosenZ
  have solves := (stabilizer.check_matrix_solves_iff xBound zBound selection).2
    ⟨chosenX.symm, chosenZ.symm⟩
  unfold signInGroup
  simp only [Nat.mod_eq_of_lt xBound, Nat.mod_eq_of_lt zBound]
  cases solved : stabilizer.checkMatrix.solve (x + 2 ^ stabilizer.qubits * z) with
  | none => exact absurd solves (solve_none _ solved selectionBound)
  | some other =>
      obtain ⟨otherBound, equations⟩ := solve_some _ solved
      obtain ⟨sameX, sameZ⟩ := (stabilizer.check_matrix_solves_iff xBound zBound other).1 equations
      have same : other = selection :=
        valid.selection_eq otherBound selectionBound (sameX.trans chosenX) (sameZ.trans chosenZ)
      show (stabilizer.product other).sign = some negative
      rw [same, product_eq_choose, chosen, Pauli.sign_of_masks]

end StabilizerPrep.Stabilizer
