import StabilizerPrep.Proofs.LayersOnStates
import StabilizerPrep.Proofs.OperatorText
import StabilizerPrep.Proofs.Requests

/-!
# The forms of a stabilizer

A stabilizer may be given by operators, by texts, and by matrices with signs.
Each form of a stabilizer is taken back to the same stabilizer, and the forms
say the same of every generator and qubit: the columns of the matrices are the
bits of the masks and the letters of the text.
-/

namespace StabilizerPrep.Stabilizer

set_option autoImplicit false

open Mask StabilizerPrep.Matrix

variable {stabilizer : Stabilizer}

theorem eq_of_generators {other : Stabilizer} (same : stabilizer.generators = other.generators) :
    stabilizer = other := by
  obtain ⟨generators, bounded⟩ := stabilizer
  obtain ⟨others, otherBounded⟩ := other
  obtain rfl := same
  rfl

theorem of_generators_generators (stabilizer : Stabilizer) :
    ofGenerators stabilizer.generators = stabilizer :=
  eq_of_generators (generators_of_generators stabilizer.bounded)

theorem in_range_paulis : ∀ pauli ∈ stabilizer.paulis, pauli.InRange stabilizer.qubits := by
  intro pauli member
  obtain ⟨generator, listed, rfl⟩ := List.mem_map.1 member
  obtain ⟨xBound, zBound⟩ := stabilizer.bounded generator listed
  exact ⟨rfl, xBound, zBound⟩

theorem columns_parts {index : Nat} (inside : index < stabilizer.generators.length) :
    ofBits (stabilizer.xPart.rows.map (·.testBit index)) = stabilizer.generators[index].x ∧
      ofBits (stabilizer.zPart.rows.map (·.testBit index)) = stabilizer.generators[index].z := by
  obtain ⟨xBound, zBound⟩ := stabilizer.bounded _ (List.getElem_mem inside)
  constructor
  · apply column_eq (by rwa [height_x_part])
    intro qubit below
    rw [entry_x_part _ (by rwa [height_x_part] at below), getD_xs inside]
  · apply column_eq (by rwa [height_z_part])
    intro qubit below
    rw [entry_z_part _ (by rwa [height_z_part] at below), getD_zs inside]

theorem of_parts_parts (stabilizer : Stabilizer) :
    ofParts stabilizer.xPart stabilizer.zPart stabilizer.signs = stabilizer := by
  have length : stabilizer.signs.length = stabilizer.qubits := List.length_map _
  have signs := signs_of_parts stabilizer.xPart stabilizer.zPart stabilizer.signs
  apply eq_of_generators
  apply List.ext_getElem
  · exact (qubits_of_parts _ _ _).trans length
  intro index inside listed
  obtain ⟨x, z⟩ := getElem_of_parts ((height_x_part _).trans length.symm)
    ((height_z_part _).trans length.symm) inside
  rw [(columns_parts listed).1] at x
  rw [(columns_parts listed).2] at z
  have negative : (ofParts stabilizer.xPart stabilizer.zPart
      stabilizer.signs).generators[index].negative = stabilizer.generators[index].negative := by
    have own := List.getElem_of_eq signs (i := index) (by simpa [Stabilizer.signs] using inside)
    simpa [Stabilizer.signs] using own
  exact Generator.mk.injEq .. ▸ ⟨x, z, negative⟩

section

variable (positive : 1 ≤ stabilizer.qubits) (small : stabilizer.qubits ≤ 64)

include small

theorem texts?_eq : stabilizer.texts? = some stabilizer.texts := by
  rw [texts?, mapM_eq_some_iff, texts, List.map_map]
  apply List.map_congr_left
  intro pauli member
  exact if_pos ((in_range_paulis pauli member).size.trans_le small)

include positive

theorem of_paulis_paulis : ofPaulis stabilizer.paulis = .ok stabilizer := by
  have size := (Circuit.check_size_eq_ok_iff stabilizer.qubits).2 ⟨positive, small⟩
  rw [ofPaulis, length_paulis, size, paulis, Circuit.mapM_generator_of]
  exact congrArg Except.ok stabilizer.of_generators_generators

theorem of_texts_texts : ofTexts stabilizer.texts = .ok stabilizer := by
  have each : ∀ pauli ∈ stabilizer.paulis, Pauli.parse pauli.text = .ok pauli := by
    intro pauli member
    obtain ⟨sized, xBound, zBound⟩ := in_range_paulis pauli member
    obtain ⟨generator, -, rfl⟩ := List.mem_map.1 member
    have signed : (generator.toPauli stabilizer.qubits).sign = some generator.negative :=
      Pauli.sign_of_masks _ _ _ _
    exact Pauli.parse_text positive small xBound zBound signed
  have read : stabilizer.texts.mapM Pauli.parse = .ok stabilizer.paulis := by
    apply mapM_of_forall₂
    rw [texts, List.forall₂_map_left_iff, List.forall₂_same]
    exact each
  rw [ofTexts, read]
  exact of_paulis_paulis positive small

theorem of_matrices_parts :
    ofMatrices stabilizer.xPart.digits stabilizer.zPart.digits
      (some (stabilizer.signs.map Bool.toNat)) = .ok stabilizer := by
  have length : stabilizer.signs.length = stabilizer.qubits := List.length_map _
  have taken := of_matrices_digits (by rwa [length]) (by rwa [length])
    ((height_x_part stabilizer).trans length.symm) length.symm
    ((height_z_part stabilizer).trans length.symm) length.symm
  rwa [of_parts_parts] at taken

end

/-- An operator that fits a stabilizer: Hermitian, with masks that end below the
number of qubits. -/
structure Fits (qubits : Nat) (pauli : Pauli) : Prop where
  qubits_eq : pauli.qubits = qubits
  x_lt : pauli.x < 2 ^ qubits
  z_lt : pauli.z < 2 ^ qubits
  hermitian : pauli.sign.isSome = true

theorem exists_of_paulis {paulis : List Pauli} (positive : 1 ≤ paulis.length)
    (small : paulis.length ≤ 64) (fit : ∀ pauli ∈ paulis, Fits paulis.length pauli) :
    ∃ made, ofPaulis paulis = .ok made ∧ made.paulis = paulis := by
  have size := (Circuit.check_size_eq_ok_iff paulis.length).2 ⟨positive, small⟩
  let generator (pauli : Pauli) : Generator := ⟨pauli.x, pauli.z, pauli.sign.getD false⟩
  have read : paulis.mapM (generatorOf paulis.length) = .ok (paulis.map generator) := by
    apply mapM_of_forall₂
    rw [List.forall₂_map_right_iff, List.forall₂_same]
    intro pauli member
    obtain ⟨negative, signed⟩ := Option.isSome_iff_exists.1 (fit pauli member).hermitian
    rw [generatorOf, if_neg (not_not.2 (fit pauli member).qubits_eq)]
    simp only [generator, signed, Option.getD_some]
  have kept : (ofGenerators (paulis.map generator)).generators = paulis.map generator := by
    apply generators_of_generators
    rw [List.length_map, List.forall_mem_map]
    exact fun pauli member => ⟨(fit pauli member).x_lt, (fit pauli member).z_lt⟩
  refine ⟨ofGenerators (paulis.map generator), ?_, ?_⟩
  · rw [ofPaulis, size, read]
    rfl
  · rw [Stabilizer.paulis, qubits, kept, List.length_map, List.map_map]
    conv_rhs => rw [← List.map_id paulis]
    apply List.map_congr_left
    intro pauli member
    obtain ⟨negative, signed⟩ := Option.isSome_iff_exists.1 (fit pauli member).hermitian
    simp only [Function.comp_apply, generator, Generator.toPauli, signed, Option.getD_some]
    rw [← (fit pauli member).qubits_eq]
    exact (Pauli.eq_of_masks_of_sign signed).symm

/-- Where the forms meet: the factor of a generator on a qubit is that of the
operator's masks, of the matrices' entries and of the text's letter, and the sign
stands in front of the text. -/
structure Agrees (stabilizer : Stabilizer) (index qubit : Nat) (pauli : Pauli) (text : String) :
    Prop where
  getElem?_paulis : stabilizer.paulis[index]? = some pauli
  getElem?_texts : stabilizer.texts[index]? = some text
  entry_x : stabilizer.xPart.entry qubit index = pauli.x.testBit qubit
  entry_z : stabilizer.zPart.entry qubit index = pauli.z.testBit qubit
  letter : text.toList[qubit + 1]? = some (pauli.factor qubit).letter
  sign : stabilizer.signs[index]? = pauli.sign
  signLetter : text.toList[0]? = pauli.sign.map Pauli.signLetter

theorem exists_agrees {index qubit : Nat} (indexInside : index < stabilizer.qubits)
    (qubitInside : qubit < stabilizer.qubits) :
    ∃ pauli text, stabilizer.Agrees index qubit pauli text := by
  change index < stabilizer.generators.length at indexInside
  let generator := stabilizer.generators[index]
  have signed : (generator.toPauli stabilizer.qubits).sign = some generator.negative :=
    Pauli.sign_of_masks _ _ _ _
  have written : (generator.toPauli stabilizer.qubits).text.toList =
      Pauli.signLetter generator.negative :: (generator.toPauli stabilizer.qubits).letters := by
    rw [Pauli.text, String.toList_ofList, Pauli.sign_text_of_sign signed]
    rfl
  refine ⟨generator.toPauli stabilizer.qubits, (generator.toPauli stabilizer.qubits).text,
    ?_, ?_, ?_, ?_, ?_, ?_, ?_⟩
  · simp [paulis, generator, indexInside]
  · simp [texts, paulis, generator, indexInside]
  · rw [entry_x_part _ qubitInside, getD_xs indexInside]
    rfl
  · rw [entry_z_part _ qubitInside, getD_zs indexInside]
    rfl
  · rw [written, List.getElem?_cons_succ, Pauli.letters, List.getElem?_map,
      List.getElem?_range (show qubit < (generator.toPauli stabilizer.qubits).qubits from
        qubitInside)]
    rfl
  · rw [signed]
    simp [signs, generator, indexInside]
  · rw [written, signed]
    rfl

/-- The forms of a stabilizer agree. From its operators, from their texts, and
from its matrices with its signs, every stabilizer on 1 to 64 qubits is made
again, and for each generator and qubit all forms show the same factor and sign.
Conversely, every list of as many Hermitian operators as they have qubits, with
masks in range, makes a stabilizer with exactly these operators. -/
theorem forms_agree :
    (∀ stabilizer : Stabilizer, 1 ≤ stabilizer.qubits → stabilizer.qubits ≤ 64 →
      ofPaulis stabilizer.paulis = .ok stabilizer ∧
      (∃ texts, stabilizer.texts? = some texts ∧ ofTexts texts = .ok stabilizer) ∧
      ofMatrices stabilizer.xPart.digits stabilizer.zPart.digits
        (some (stabilizer.signs.map Bool.toNat)) = .ok stabilizer ∧
      ∀ index < stabilizer.qubits, ∀ qubit < stabilizer.qubits,
        ∃ pauli text, stabilizer.Agrees index qubit pauli text) ∧
    ∀ paulis : List Pauli, 1 ≤ paulis.length → paulis.length ≤ 64 →
      (∀ pauli ∈ paulis, Fits paulis.length pauli) →
      ∃ stabilizer, ofPaulis paulis = .ok stabilizer ∧ stabilizer.paulis = paulis := by
  constructor
  · intro stabilizer positive small
    exact ⟨of_paulis_paulis positive small,
      ⟨stabilizer.texts, texts?_eq small, of_texts_texts positive small⟩,
      of_matrices_parts positive small,
      fun _ indexInside _ qubitInside => exists_agrees indexInside qubitInside⟩
  · intro paulis positive small fit
    exact exists_of_paulis positive small fit

/-- Three generators that are no graph state, with different X parts and Z parts. -/
theorem forms_agree_triple :
    let triple := ofGenerators [⟨0b011, 0b110, true⟩, ⟨0b100, 0b001, false⟩, ⟨0, 0b111, true⟩]
    let operators : List Pauli := [⟨3, 0b011, 0b110, 3, by decide⟩,
      ⟨3, 0b100, 0b001, 0, by decide⟩, ⟨3, 0, 0b111, 2, by decide⟩]
    ofPaulis triple.paulis = .ok triple ∧
      (∃ texts, triple.texts? = some texts ∧ ofTexts texts = .ok triple) ∧
      ofMatrices triple.xPart.digits triple.zPart.digits (some [1, 0, 1]) = .ok triple ∧
      (∃ pauli text, triple.Agrees 0 1 pauli text) ∧
      ∃ stabilizer, ofPaulis operators = .ok stabilizer ∧ stabilizer.paulis = operators := by
  intro triple operators
  obtain ⟨back, made⟩ := forms_agree
  obtain ⟨fromPaulis, fromTexts, fromParts, agree⟩ := back triple (by decide) (by decide)
  have fit : ∀ pauli ∈ operators, Fits 3 pauli := by
    intro pauli member
    simp only [operators, List.mem_cons, List.not_mem_nil, or_false] at member
    rcases member with rfl | rfl | rfl <;> exact ⟨rfl, by decide, by decide, by decide⟩
  exact ⟨fromPaulis, fromTexts, fromParts, agree 0 (by decide) 1 (by decide),
    made operators (by decide) (by decide) fit⟩

end StabilizerPrep.Stabilizer
