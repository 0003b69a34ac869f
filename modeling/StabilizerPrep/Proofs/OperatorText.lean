import Mathlib.Data.Set.List
import StabilizerPrep.Proofs.Outcomes
import StabilizerPrep.Proofs.PauliProduct
import StabilizerPrep.Pauli.Text

/-!
# Texts of operators

The texts that are read are words of one to 64 letters behind an optional sign.
Reading and writing undo each other: what is read is written as the same word
with its sign, and a Hermitian operator is read back from what is written, mask
by mask and with its phase. The text of any other operator is refused, because
of the `i` behind its sign.
-/

namespace StabilizerPrep.Pauli

set_option autoImplicit false

open Mask

inductive Signed : List Char → Bool → List Char → Prop
  | minus (word : List Char) : Signed ('-' :: word) true word
  | plus (word : List Char) : Signed ('+' :: word) false word
  | bare (word : List Char) : Signed word false word

structure IsWord (word : List Char) : Prop where
  positive : 1 ≤ word.length
  short : word.length ≤ maxQubits
  letters : ∀ letter ∈ word, letter ∈ ['I', 'X', 'Y', 'Z']

def signLetter : Bool → Char
  | false => '+'
  | true => '-'

variable {text word : List Char} {negative : Bool} {factors : List Factor} {pauli : Pauli}

theorem letters_of_factors (negative : Bool) (factors : List Factor) :
    (ofFactors negative factors).letters = factors.map Factor.letter := by
  apply List.ext_getElem
  · simp [letters, ofFactors, ofMasks]
  · intro position _ inside
    have below : position < factors.length := by simpa using inside
    simp only [letters, ofFactors, ofMasks, factor, test_bit_of_bits, List.getElem_map,
      List.getElem_range, List.getD_eq_getElem?_getD, List.getElem?_map,
      List.getElem?_eq_getElem below, Option.map_some, Option.getD_some,
      Factor.of_bits_has_x_has_z]

theorem exists_letter_iff (letter : Char) :
    (∃ factor : Factor, factor.letter = letter) ↔ letter ∈ ['I', 'X', 'Y', 'Z'] := by
  constructor
  · rintro ⟨factor, rfl⟩
    cases factor <;> decide
  · intro listed
    simp only [List.mem_cons, List.not_mem_nil, or_false] at listed
    rcases listed with rfl | rfl | rfl | rfl
    · exact ⟨.i, rfl⟩
    · exact ⟨.x, rfl⟩
    · exact ⟨.y, rfl⟩
    · exact ⟨.z, rfl⟩

theorem is_word_iff :
    IsWord word ↔ ∃ factors : List Factor, factors.map Factor.letter = word ∧
      1 ≤ factors.length ∧ factors.length ≤ maxQubits := by
  constructor
  · rintro ⟨positive, short, letters⟩
    have listed : word ∈ Set.range (List.map Factor.letter) := by
      rw [Set.range_list_map]
      exact fun letter member => (exists_letter_iff letter).2 (letters letter member)
    obtain ⟨factors, rfl⟩ := listed
    rw [List.length_map] at positive short
    exact ⟨factors, rfl, positive, short⟩
  · rintro ⟨factors, rfl, positive, short⟩
    refine ⟨by rwa [List.length_map], by rwa [List.length_map], ?_⟩
    intro letter member
    obtain ⟨factor, -, rfl⟩ := List.mem_map.1 member
    exact (exists_letter_iff factor.letter).1 ⟨factor, rfl⟩

theorem letter_of_letter? {letter : Char} {factor : Factor}
    (found : Factor.ofLetter? letter = some factor) : factor.letter = letter := by
  unfold Factor.ofLetter? at found
  split at found <;> cases found <;> rfl

theorem map_letter_of_read_factors {body : List Char} {factors : List Factor}
    (taken : readFactors body = .ok factors) : body = factors.map Factor.letter := by
  rw [← List.forall₂_eq_eq_eq, List.forall₂_map_right_iff]
  refine (forall₂_of_mapM taken).imp fun letter factor own => ?_
  split at own
  next found =>
      obtain rfl := Except.ok.inj own
      exact (letter_of_letter? found).symm
  next => cases own

theorem read_factors_map (factors : List Factor) :
    readFactors (factors.map Factor.letter) = .ok factors := by
  induction factors with
  | nil => rfl
  | cons factor factors ih =>
      rw [readFactors] at ih ⊢
      rw [List.map_cons, List.mapM_cons, ih]
      simp only [Factor.of_letter?_letter]
      rfl

theorem total_utf8_size (factors : List Factor) :
    ((factors.map Factor.letter).map Char.utf8Size).sum = factors.length := by
  induction factors with
  | nil => rfl
  | cons factor factors ih =>
      have one : factor.letter.utf8Size = 1 := by cases factor <;> rfl
      rw [List.map_cons, List.map_cons, List.sum_cons, ih, one, List.length_cons, Nat.add_comm]

theorem signed_split_sign (text : List Char) :
    Signed text (splitSign text).1 (splitSign text).2 := by
  unfold splitSign
  split
  · exact .plus _
  · exact .minus _
  · exact .bare _

theorem split_sign_of_signed (signed : Signed text negative (factors.map Factor.letter)) :
    splitSign text = (negative, factors.map Factor.letter) := by
  cases signed with
  | minus => rfl
  | plus => rfl
  | bare =>
      cases factors with
      | nil => rfl
      | cons factor factors => cases factor <;> rfl

theorem Signed.second_mem {first second : Char} {rest : List Char}
    (signed : Signed (first :: second :: rest) negative word) : second ∈ word := by
  cases signed with
  | minus => exact List.mem_cons_self
  | plus => exact List.mem_cons_self
  | bare => exact List.mem_cons_of_mem _ List.mem_cons_self

theorem read_eq_ok_iff :
    read text = .ok pauli ↔
      ∃ negative factors, Signed text negative (factors.map Factor.letter) ∧
        1 ≤ factors.length ∧ factors.length ≤ maxQubits ∧ pauli = ofFactors negative factors := by
  constructor
  · intro taken
    have signed := signed_split_sign text
    rw [read] at taken
    simp only at taken
    split at taken
    · cases taken
    next nonempty =>
      split at taken
      · cases taken
      next short =>
        obtain ⟨factors, listed, built⟩ := exists_of_bind_ok taken
        have letters := map_letter_of_read_factors listed
        rw [letters] at signed nonempty short
        rw [total_utf8_size] at short
        refine ⟨_, factors, signed, ?_, Nat.not_lt.1 short, (Except.ok.inj built).symm⟩
        cases factors with
        | nil => exact absurd rfl nonempty
        | cons => exact Nat.succ_pos _
  · rintro ⟨negative, factors, signed, positive, short, rfl⟩
    have nonempty : ¬(factors.map Factor.letter).isEmpty = true := by
      cases factors with
      | nil => cases positive
      | cons => exact Bool.false_ne_true
    rw [read, split_sign_of_signed signed]
    simp only
    rw [if_neg nonempty, total_utf8_size, if_neg (Nat.not_lt.2 short), read_factors_map]
    rfl

theorem parse_eq_ok_iff (text : String) :
    parse text = .ok pauli ↔ read text.toList = .ok pauli := by
  rw [parse]
  cases read text.toList with
  | ok found =>
      exact ⟨fun same => by rw [Except.ok.inj same], fun same => by rw [Except.ok.inj same]⟩
  | error fault => exact ⟨nofun, nofun⟩

theorem sign_text_of_sign (signed : pauli.sign = some negative) :
    pauli.signText = [signLetter negative] := by
  unfold sign at signed
  rw [signText]
  split at signed
  next zero =>
      obtain rfl := Option.some.inj signed
      rw [zero]
      rfl
  next two =>
      obtain rfl := Option.some.inj signed
      rw [two]
      rfl
  next => cases signed

theorem sign_text_of_not_hermitian (imaginary : pauli.sign = none) :
    ∃ negative, pauli.signText = [signLetter negative, 'i'] := by
  have bound : pauli.prefactor < 4 := Nat.mod_lt _ (by decide)
  have odd : pauli.prefactor = 1 ∨ pauli.prefactor = 3 := by
    have real : ∀ value, value = 0 ∨ value = 2 → pauli.prefactor ≠ value := by
      rintro value (rfl | rfl) same
      all_goals
        rw [sign, same] at imaginary
        cases imaginary
    have zero := real 0 (.inl rfl)
    have two := real 2 (.inr rfl)
    omega
  rcases odd with one | three
  · refine ⟨false, ?_⟩
    rw [signText, one]
    rfl
  · refine ⟨true, ?_⟩
    rw [signText, three]
    rfl

theorem letters_eq (pauli : Pauli) :
    pauli.letters = ((List.range pauli.qubits).map pauli.factor).map Factor.letter := by
  rw [letters, List.map_map]
  rfl

theorem of_factors_factor (xBound : pauli.x < 2 ^ pauli.qubits)
    (zBound : pauli.z < 2 ^ pauli.qubits) (negative : Bool) :
    ofFactors negative ((List.range pauli.qubits).map pauli.factor) =
      ofMasks pauli.qubits pauli.x pauli.z negative := by
  have hasX : ∀ x z, (Factor.ofBits x z).hasX = x := by decide
  have hasZ : ∀ x z, (Factor.ofBits x z).hasZ = z := by decide
  have xs : ofBits (((List.range pauli.qubits).map pauli.factor).map Factor.hasX) = pauli.x := by
    rw [List.map_map]
    simp only [Function.comp_def, factor, hasX]
    exact of_bits_bits xBound
  have zs : ofBits (((List.range pauli.qubits).map pauli.factor).map Factor.hasZ) = pauli.z := by
    rw [List.map_map]
    simp only [Function.comp_def, factor, hasZ]
    exact of_bits_bits zBound
  rw [ofFactors, xs, zs, List.length_map, List.length_range]

/-- A text is read exactly if it is a word behind an optional sign, and what is
read is written as that word with its sign. -/
theorem parse_eq_ok {text : String} (taken : parse text = .ok pauli) :
    pauli.InRange pauli.qubits ∧ ∃ negative word, Signed text.toList negative word ∧ IsWord word ∧
      pauli.sign = some negative ∧ pauli.text? = some (.ofList (signLetter negative :: word)) := by
  obtain ⟨negative, factors, signed, positive, short, rfl⟩ :=
    read_eq_ok_iff.1 ((parse_eq_ok_iff text).1 taken)
  have xBound := of_bits_lt (factors.map Factor.hasX)
  have zBound := of_bits_lt (factors.map Factor.hasZ)
  rw [List.length_map] at xBound zBound
  have sign : (ofFactors negative factors).sign = some negative := sign_of_masks _ _ _ _
  refine ⟨⟨rfl, xBound, zBound⟩, negative, factors.map Factor.letter, signed,
    is_word_iff.2 ⟨factors, rfl, positive, short⟩, sign, ?_⟩
  rw [text?, if_pos (show (ofFactors negative factors).qubits ≤ maxQubits from short), Pauli.text,
    sign_text_of_sign sign, letters_of_factors]
  rfl

theorem parse_text (positive : 1 ≤ pauli.qubits) (short : pauli.qubits ≤ maxQubits)
    (xBound : pauli.x < 2 ^ pauli.qubits) (zBound : pauli.z < 2 ^ pauli.qubits)
    (signed : pauli.sign = some negative) :
    parse pauli.text = .ok pauli := by
  have same : pauli = ofFactors negative ((List.range pauli.qubits).map pauli.factor) := by
    rw [of_factors_factor xBound zBound]
    exact eq_of_masks_of_sign signed
  rw [parse_eq_ok_iff, Pauli.text, String.toList_ofList, sign_text_of_sign signed, letters_eq,
    read_eq_ok_iff]
  refine ⟨negative, (List.range pauli.qubits).map pauli.factor, ?_, by simpa using positive,
    by simpa using short, same⟩
  cases negative with
  | false => exact .plus _
  | true => exact .minus _

/-- The letter `i` of any other operator stands where only letters of factors are
allowed. -/
theorem parse_text_ne_ok (imaginary : pauli.sign = none) (found : Pauli) :
    parse pauli.text ≠ .ok found := by
  intro taken
  obtain ⟨first, written⟩ := sign_text_of_not_hermitian imaginary
  rw [parse_eq_ok_iff, Pauli.text, String.toList_ofList, written, read_eq_ok_iff] at taken
  obtain ⟨negative, factors, signed, -⟩ := taken
  obtain ⟨factor, -, letter⟩ := List.mem_map.1 signed.second_mem
  exact absurd ((exists_letter_iff 'i').1 ⟨factor, letter⟩) (by decide)

/-- Texts of operators are read exactly, and reading and writing undo each
other. A text is accepted if and only if it is one to 64 letters behind an
optional sign; then the operator in question is in range, Hermitian, and written
as the same letters with an explicit sign. From the text of a Hermitian operator
on 1 to 64 qubits with masks in range, the same operator is read. The text of an
operator that is not Hermitian is never accepted. -/
theorem text_inverts_parse :
    (∀ text : String, (∃ pauli, parse text = .ok pauli) ↔
      ∃ negative word, Signed text.toList negative word ∧ IsWord word) ∧
    (∀ (text : String) (pauli : Pauli), parse text = .ok pauli →
      pauli.InRange pauli.qubits ∧
        ∃ negative word, Signed text.toList negative word ∧ IsWord word ∧
          pauli.sign = some negative ∧
          pauli.text? = some (.ofList (signLetter negative :: word))) ∧
    (∀ pauli : Pauli, 1 ≤ pauli.qubits → pauli.qubits ≤ maxQubits →
      pauli.x < 2 ^ pauli.qubits → pauli.z < 2 ^ pauli.qubits →
      pauli.sign.isSome = true →
      ∃ text, pauli.text? = some text ∧ parse text = .ok pauli) ∧
    (∀ (pauli : Pauli) (text : String), pauli.sign = none → pauli.text? = some text →
      ∀ found, parse text ≠ .ok found) := by
  refine ⟨?_, fun text pauli => parse_eq_ok, ?_, ?_⟩
  · intro text
    constructor
    · rintro ⟨pauli, taken⟩
      obtain ⟨-, negative, word, signed, isWord, -⟩ := parse_eq_ok taken
      exact ⟨negative, word, signed, isWord⟩
    · rintro ⟨negative, word, signed, isWord⟩
      obtain ⟨factors, rfl, positive, short⟩ := is_word_iff.1 isWord
      exact ⟨_, (parse_eq_ok_iff text).2
        (read_eq_ok_iff.2 ⟨negative, factors, signed, positive, short, rfl⟩)⟩
  · intro pauli positive short xBound zBound hermitian
    obtain ⟨negative, signed⟩ := Option.isSome_iff_exists.1 hermitian
    exact ⟨pauli.text, if_pos short, parse_text positive short xBound zBound signed⟩
  · intro pauli text imaginary written
    rw [text?] at written
    split at written
    · obtain rfl := Option.some.inj written
      exact parse_text_ne_ok imaginary
    · cases written

/-- A word without a sign, an operator on the last of 64 qubits, and an
imaginary operator. -/
theorem text_inverts_parse_edges :
    (∃ pauli, parse "XIZY" = .ok pauli) ∧
    (∃ text, (Pauli.mk 64 (single 63) (single 63) 3 (by decide)).text? = some text ∧
      parse text = .ok ⟨64, single 63, single 63, 3, by decide⟩) ∧
    (Pauli.mk 1 1 1 0 (by decide)).text? = some "-iY" ∧ (∀ found, parse "-iY" ≠ .ok found) ∧
    ∀ found, parse "X+" ≠ .ok found := by
  obtain ⟨accepts, shows, back, refused⟩ := text_inverts_parse
  have last := back ⟨64, single 63, single 63, 3, by decide⟩ (by decide) (by decide)
    (single_lt (by decide)) (single_lt (by decide)) (by decide)
  have word : IsWord ['X', 'I', 'Z', 'Y'] := ⟨by decide, by decide, by simp⟩
  refine ⟨(accepts "XIZY").2 ⟨false, ['X', 'I', 'Z', 'Y'], .bare _, word⟩,
    last, rfl, refused ⟨1, 1, 1, 0, by decide⟩ "-iY" (by decide) rfl, ?_⟩
  intro found read
  obtain ⟨-, negative, word, signed, isWord, -⟩ := shows "X+" found read
  cases signed with
  | bare => exact absurd (isWord.letters '+' (by decide)) (by decide)

end StabilizerPrep.Pauli
