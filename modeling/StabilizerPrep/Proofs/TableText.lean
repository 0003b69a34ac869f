import StabilizerPrep.Bundled.Row
import StabilizerPrep.Proofs.Simulation

/-!
# Texts of tables

Texts that are put together from pieces are cut into the same pieces again. So
numbers, instructions and circuits are read back from what is written, and a
bundled table is read as the templates of its rows.
-/

namespace StabilizerPrep.Text

set_option autoImplicit false

variable {separator : Char}

theorem split_cons_separator (rest : List Char) :
    split separator (separator :: rest) = [] :: split separator rest := by
  simp [split]

theorem split_cons {letter : Char} (apart : letter ≠ separator) (rest : List Char) :
    split separator (letter :: rest) =
      match split separator rest with
      | [] => [[letter]]
      | piece :: others => (letter :: piece) :: others := by
  rw [split, List.foldr_cons, if_neg apart]
  rfl

theorem split_of_free {piece : List Char} (free : separator ∉ piece) :
    split separator piece = [piece] := by
  induction piece with
  | nil => rfl
  | cons letter piece ih =>
      have apart : letter ≠ separator := by
        rintro rfl
        exact free List.mem_cons_self
      rw [split_cons apart, ih fun member => free (List.mem_cons_of_mem _ member)]

theorem split_append {piece : List Char} (free : separator ∉ piece) (rest : List Char) :
    split separator (piece ++ separator :: rest) = piece :: split separator rest := by
  induction piece with
  | nil => exact split_cons_separator rest
  | cons letter piece ih =>
      have apart : letter ≠ separator := by
        rintro rfl
        exact free List.mem_cons_self
      rw [List.cons_append, split_cons apart,
        ih fun member => free (List.mem_cons_of_mem _ member)]

theorem split_intercalate {piece : List Char} {pieces : List (List Char)}
    (free : ∀ other ∈ piece :: pieces, separator ∉ other) :
    split separator ([separator].intercalate (piece :: pieces)) = piece :: pieces := by
  induction pieces generalizing piece with
  | nil =>
      have own := split_of_free (free piece List.mem_cons_self)
      simpa [List.intercalate] using own
  | cons next pieces ih =>
      have joined : [separator].intercalate (piece :: next :: pieces) =
          piece ++ separator :: [separator].intercalate (next :: pieces) := by
        simp [List.intercalate]
      rw [joined, split_append (free piece List.mem_cons_self),
        ih fun other member => free other (List.mem_cons_of_mem _ member)]

theorem mem_intercalate {letter : Char} {pieces : List (List Char)}
    (member : letter ∈ [separator].intercalate pieces) :
    letter = separator ∨ ∃ piece ∈ pieces, letter ∈ piece := by
  induction pieces with
  | nil => simp [List.intercalate] at member
  | cons piece pieces ih =>
      cases pieces with
      | nil => exact .inr ⟨piece, List.mem_cons_self, by simpa [List.intercalate] using member⟩
      | cons second pieces =>
          have joined : [separator].intercalate (piece :: second :: pieces) =
              piece ++ separator :: [separator].intercalate (second :: pieces) := by
            simp [List.intercalate]
          rw [joined] at member
          rcases List.mem_append.1 member with own | later
          · exact .inr ⟨piece, List.mem_cons_self, own⟩
          · rcases List.mem_cons.1 later with same | further
            · exact .inl same
            · refine (ih further).imp_right ?_
              rintro ⟨other, otherMember, inside⟩
              exact ⟨other, List.mem_cons_of_mem _ otherMember, inside⟩

theorem exists_intercalate_eq_append (pieces : List (List Char)) (last : List Char) :
    ∃ front, [separator].intercalate (pieces ++ [last]) = front ++ last := by
  induction pieces with
  | nil => exact ⟨[], by simp [List.intercalate]⟩
  | cons piece pieces ih =>
      obtain ⟨front, joined⟩ := ih
      refine ⟨piece ++ separator :: front, ?_⟩
      obtain ⟨second, rest, listed⟩ :=
        List.exists_cons_of_ne_nil (show pieces ++ [last] ≠ [] by simp)
      have step : [separator].intercalate (piece :: second :: rest) =
          piece ++ separator :: [separator].intercalate (second :: rest) := by
        simp [List.intercalate]
      rw [List.cons_append, listed, step, ← listed, joined]
      simp

variable {isSeparator : Char → Bool}

theorem start_words (offset : Nat) (text : List Char) :
    ∀ word ∈ words isSeparator offset text, offset ≤ word.start := by
  induction text generalizing offset with
  | nil => simp [words]
  | cons letter rest ih =>
      have later := ih (offset + letter.utf8Size)
      intro word member
      simp only [words] at member
      split at member
      · have := later word member
        omega
      · split at member
        · rw [List.mem_singleton.1 member]
        next first others listed =>
            rw [listed] at later
            split at member
            · rcases List.mem_cons.1 member with rfl | other
              · exact Nat.le_refl _
              · have := later word (List.mem_cons_of_mem _ other)
                omega
            · rcases List.mem_cons.1 member with rfl | other
              · exact Nat.le_refl _
              · rw [listed] at other
                have := later word other
                omega

theorem words_append {letter : Char} {tail : List Char}
    (letters : ∀ other ∈ letter :: tail, isSeparator other = false) (after : List Char)
    (ends : ∀ other ∈ after.head?, isSeparator other = true) (offset : Nat) :
    ∃ next, words isSeparator offset (letter :: (tail ++ after)) =
      ⟨offset, letter :: tail⟩ :: words isSeparator next after := by
  have own := letters letter List.mem_cons_self
  induction tail generalizing letter offset with
  | nil =>
      refine ⟨offset + letter.utf8Size, ?_⟩
      simp only [List.nil_append, words, own, Bool.false_eq_true, if_false]
      cases after with
      | nil => rfl
      | cons separator after =>
          have stops := ends separator rfl
          have size := separator.utf8Size_pos
          simp only [words, stops, if_true]
          split
          next none => rw [none]
          next first others listed =>
              have beyond := start_words _ after first (by rw [listed]; exact List.mem_cons_self)
              rw [if_neg (by omega), listed]
  | cons second tail ih =>
      obtain ⟨next, later⟩ := ih (fun other member => letters other (List.mem_cons_of_mem _ member))
        (offset + letter.utf8Size) (letters second (List.mem_cons_of_mem _ List.mem_cons_self))
      refine ⟨next, ?_⟩
      rw [words, if_neg (by simp [own]), List.cons_append, later]
      simp

theorem letters_words_intercalate {separator : Char} (separates : isSeparator separator = true)
    {pieces : List (List Char)}
    (proper : ∀ piece ∈ pieces, piece ≠ [] ∧ ∀ letter ∈ piece, isSeparator letter = false)
    (offset : Nat) :
    (words isSeparator offset ([separator].intercalate pieces)).map (·.letters) = pieces := by
  induction pieces generalizing offset with
  | nil => rfl
  | cons piece pieces ih =>
      obtain ⟨nonempty, letters⟩ := proper piece List.mem_cons_self
      obtain ⟨letter, tail, rfl⟩ := List.exists_cons_of_ne_nil nonempty
      cases pieces with
      | nil =>
          obtain ⟨next, found⟩ := words_append letters [] (by simp) offset
          have single : [separator].intercalate [letter :: tail] = letter :: (tail ++ []) := by
            simp [List.intercalate]
          rw [single, found]
          rfl
      | cons second pieces =>
          have joined : [separator].intercalate ((letter :: tail) :: second :: pieces) =
              letter :: (tail ++ separator :: [separator].intercalate (second :: pieces)) := by
            simp [List.intercalate]
          obtain ⟨next, found⟩ := words_append letters
            (separator :: [separator].intercalate (second :: pieces))
              (by simpa using separates) offset
          have rest := ih (fun other member => proper other (List.mem_cons_of_mem _ member))
            (next + separator.utf8Size)
          rw [joined, found, List.map_cons, words]
          simp only [separates, if_true]
          rw [rest]

end StabilizerPrep.Text

namespace StabilizerPrep.Text

set_option autoImplicit false

theorem split_lines {lines : List (List Char)} (free : ∀ line ∈ lines, '\n' ∉ line) :
    split '\n' (lines.flatMap (· ++ ['\n'])) = lines ++ [[]] := by
  induction lines with
  | nil => rfl
  | cons line lines ih =>
      rw [List.flatMap_cons, List.append_assoc, List.singleton_append,
        split_append (free line List.mem_cons_self),
        ih fun other member => free other (List.mem_cons_of_mem _ member)]
      rfl

theorem drop_while_of_head {letter : Char} {rest : List Char} (visible : isBlank letter = false) :
    (letter :: rest).dropWhile isBlank = letter :: rest := by
  rw [List.dropWhile_cons, if_neg (by simp [visible])]

theorem trim_of_ends {line front back : List Char} {first last : Char}
    (starts : line = first :: back) (ends : line = front ++ [last])
    (firstVisible : isBlank first = false) (lastVisible : isBlank last = false) :
    trim line = line := by
  rw [trim, starts, drop_while_of_head firstVisible, ← starts, ends, List.reverse_append,
    List.reverse_singleton, List.singleton_append, drop_while_of_head lastVisible]
  simp

theorem numbered_lines_of_lines {lines : List (List Char)} (free : ∀ line ∈ lines, '\n' ∉ line)
    (trimmed : ∀ line ∈ lines, trim line = line) (nonempty : ∀ line ∈ lines, line ≠ []) :
    (numberedLines (lines.flatMap (· ++ ['\n']))).map Prod.snd = lines := by
  have blank : trim [] = [] := rfl
  have own : ∀ (rest : List (List Char)) (number : Nat), (∀ line ∈ rest, line ≠ []) →
      (((rest ++ [[]]).zipIdx number).filterMap fun (entry : List Char × Nat) =>
        if entry.1.isEmpty then none else some (entry.2, entry.1)).map Prod.snd = rest := by
    intro rest
    induction rest with
    | nil => intro number _; rfl
    | cons line rest ih =>
        intro number proper
        have filled : line.isEmpty = false := by
          simpa using proper line List.mem_cons_self
        rw [List.cons_append, List.zipIdx_cons, List.filterMap_cons]
        simp only [filled, Bool.false_eq_true, if_false, List.map_cons]
        rw [ih (number + 1) fun other member => proper other (List.mem_cons_of_mem _ member)]
  have pieces : (lines ++ [[]]).map trim = lines ++ [[]] := by
    rw [List.map_append, List.map_cons, List.map_nil, blank]
    congr 1
    conv_rhs => rw [← List.map_id lines]
    exact List.map_congr_left trimmed
  rw [numberedLines, split_lines free, pieces]
  exact own lines 1 nonempty

theorem le_of_digit_chars (digits : List Char) (value : Nat) :
    value ≤ Nat.ofDigitChars 10 digits value := by
  induction digits generalizing value with
  | nil => exact Nat.le_refl value
  | cons digit digits ih =>
      rw [Nat.ofDigitChars_cons]
      have later := ih (10 * value + (digit.toNat - '0'.toNat))
      omega

theorem read_digits_eq {limit : Nat} {digits : List Char}
    (decimal : ∀ digit ∈ digits, digit.isDigit = true) {value : Nat}
    (small : Nat.ofDigitChars 10 digits value < limit) :
    readDigits limit value digits = .ok (Nat.ofDigitChars 10 digits value) := by
  induction digits generalizing value with
  | nil => rfl
  | cons digit digits ih =>
      rw [Nat.ofDigitChars_cons] at small
      have step := Nat.lt_of_le_of_lt (le_of_digit_chars _ _) small
      rw [readDigits, if_pos (decimal digit List.mem_cons_self), if_pos step,
        ih (fun other member => decimal other (List.mem_cons_of_mem _ member)) small,
        Nat.ofDigitChars_cons]

theorem is_digit_to_digits (number : Nat) :
    ∀ digit ∈ Nat.toDigits 10 number, digit.isDigit = true :=
  fun _ member => Nat.isDigit_of_mem_toDigits (by decide) (by decide) member

theorem not_mem_to_digits {letter : Char} (other : letter.isDigit = false) (number : Nat) :
    letter ∉ Nat.toDigits 10 number := by
  intro member
  rw [is_digit_to_digits number letter member] at other
  cases other

theorem read_number_to_digits {limit number : Nat} (small : number < limit) :
    readNumber limit (Nat.toDigits 10 number) = .ok number := by
  have decimal := is_digit_to_digits number
  have value : Nat.ofDigitChars 10 (Nat.toDigits 10 number) 0 = number :=
    Nat.ofDigitChars_ten_toDigits
  have taken := @read_digits_eq limit _ decimal 0 (by rwa [value])
  rw [value] at taken
  unfold readNumber
  split
  next none => exact absurd none Nat.toDigits_ne_nil
  next plus =>
      exact absurd (List.mem_singleton_self '+') (plus ▸ not_mem_to_digits rfl number)
  next digits plus =>
      exact absurd List.mem_cons_self (plus ▸ @not_mem_to_digits '+' rfl number)
  next => exact taken

end StabilizerPrep.Text

namespace StabilizerPrep.Spec

set_option autoImplicit false

open Text

theorem take_while_append_of_all {test : Char → Bool} {front back : List Char}
    (all : ∀ letter ∈ front, test letter = true)
    (stops : ∀ letter ∈ back.head?, test letter = false) :
    (front ++ back).takeWhile test = front := by
  induction front with
  | nil =>
      cases back with
      | nil => rfl
      | cons letter back =>
          rw [List.nil_append, List.takeWhile_cons, if_neg (by simp [stops letter rfl])]
  | cons letter front ih =>
      rw [List.cons_append, List.takeWhile_cons, if_pos (all letter List.mem_cons_self),
        ih fun other member => all other (List.mem_cons_of_mem _ member)]

theorem index?_to_digits {number : Nat} (small : number < indexBound) :
    index? (Nat.toDigits 10 number) = some number := by
  have filled : (Nat.toDigits 10 number).isEmpty = false := by
    simp [List.isEmpty_eq_false_iff]
  simp only [index?, Nat.ofDigitChars_ten_toDigits, filled, Bool.false_or,
    decide_eq_true_eq, if_neg (Nat.not_le.2 small)]

theorem operands_to_digits (name : List Char) {qubits : List Nat}
    (small : ∀ qubit ∈ qubits, qubit < indexBound) (offset : Nat) :
    operands name offset (qubits.map (Nat.toDigits 10)) = .ok qubits := by
  induction qubits generalizing offset with
  | nil => rfl
  | cons qubit qubits ih =>
      have digits : (Nat.toDigits 10 qubit).takeWhile Char.isDigit = Nat.toDigits 10 qubit := by
        have taken := @take_while_append_of_all Char.isDigit (Nat.toDigits 10 qubit) []
          (is_digit_to_digits qubit) (by simp)
        simpa using taken
      rw [List.map_cons, operands]
      simp only [digits, index?_to_digits (small qubit List.mem_cons_self), Nat.lt_irrefl, if_false]
      rw [ih fun other member => small other (List.mem_cons_of_mem _ member)]
      rfl

theorem is_name_letter_letters (gate : Gate) :
    gate.letters ≠ [] ∧ ∀ letter ∈ gate.letters, isNameLetter letter = true := by
  have visible : gate.letters.isEmpty = false := by
    cases gate <;> rfl
  have plain : gate.letters.all isNameLetter = true := by
    cases gate <;> rfl
  exact ⟨List.isEmpty_eq_false_iff.1 visible, List.all_eq_true.1 plain⟩

theorem not_is_name_letter_of_is_digit {letter : Char} (decimal : letter.isDigit = true) :
    isNameLetter letter = false := by
  rw [Char.isDigit_iff_toNat] at decimal
  have below : ¬('a' ≤ letter) := by
    intro above
    have order : 'a'.toNat ≤ letter.toNat := above
    have : '9'.toNat < 'a'.toNat := by decide
    omega
  simp [isNameLetter, below]

theorem exists_to_digits_eq_cons (number : Nat) :
    ∃ digit tail, Nat.toDigits 10 number = digit :: tail ∧ digit.isDigit = true := by
  obtain ⟨digit, tail, listed⟩ := List.exists_cons_of_ne_nil (@Nat.toDigits_ne_nil number 10)
  exact ⟨digit, tail, listed, is_digit_to_digits number digit (by simp [listed])⟩

theorem instruction_letters {written : Instruction} (accepted : written.check = .ok ())
    (small : ∀ qubit ∈ written.qubits, qubit < indexBound) (start : Nat) :
    instruction ⟨start, written.letters⟩ = .ok written := by
  obtain ⟨gate, qubits⟩ := written
  obtain ⟨filled, named⟩ := is_name_letter_letters gate
  cases qubits with
  | nil =>
      exact absurd accepted (by cases gate <;> decide)
  | cons qubit qubits =>
      have pieces : ∀ piece ∈ (qubit :: qubits).map (Nat.toDigits 10), ',' ∉ piece := by
        intro piece member
        obtain ⟨number, _, rfl⟩ := List.mem_map.1 member
        exact not_mem_to_digits rfl number
      obtain ⟨digit, tail, listed, decimal⟩ := exists_to_digits_eq_cons qubit
      have stops : ∀ letter ∈ ([','].intercalate ((qubit :: qubits).map (Nat.toDigits 10))).head?,
          isNameLetter letter = false := by
        intro letter first
        have head : letter = digit := by
          cases qubits <;> simp [List.intercalate, listed] at first <;> exact first.symm
        rw [head]
        exact not_is_name_letter_of_is_digit decimal
      have letters : (Instruction.mk gate (qubit :: qubits)).letters.takeWhile isNameLetter =
          gate.letters := take_while_append_of_all named stops
      have rest : (Instruction.mk gate (qubit :: qubits)).letters.drop gate.letters.length =
          [','].intercalate ((qubit :: qubits).map (Nat.toDigits 10)) := by
        rw [Instruction.letters]
        exact List.drop_left
      rw [instruction]
      simp only [letters, rest, List.isEmpty_eq_false_iff.2 filled, Bool.false_eq_true, if_false,
        Gate.of_letters?_letters]
      rw [List.map_cons, split_intercalate (by simpa using pieces), ← List.map_cons,
        operands_to_digits _ small]
      change Instruction.make gate (qubit :: qubits) = _
      rw [Instruction.make, accepted]
      rfl

def Plain (letter : Char) : Prop :=
  isNameLetter letter = true ∨ letter.isDigit = true ∨ letter = ','

theorem plain_letters (written : Instruction) : ∀ letter ∈ written.letters, Plain letter := by
  intro letter member
  rcases List.mem_append.1 member with front | back
  · exact .inl ((is_name_letter_letters written.gate).2 letter front)
  · rcases mem_intercalate back with comma | ⟨piece, pieceMember, inside⟩
    · exact .inr (.inr comma)
    · obtain ⟨qubit, _, rfl⟩ := List.mem_map.1 pieceMember
      exact .inr (.inl (is_digit_to_digits qubit letter inside))

theorem Plain.range {letter : Char} (plain : Plain letter) :
    44 ≤ letter.toNat ∧ letter.toNat ≤ 122 ∧ letter.toNat ≠ 58 := by
  rcases plain with named | decimal | rfl
  · simp only [isNameLetter, Bool.and_eq_true, decide_eq_true_eq] at named
    have lower : 97 ≤ letter.toNat := named.1
    have upper : letter.toNat ≤ 122 := named.2
    omega
  · rw [Char.isDigit_iff_toNat] at decimal
    have lower : 48 ≤ letter.toNat := decimal.1
    have upper : letter.toNat ≤ 57 := decimal.2
    omega
  · decide

theorem Plain.visible {letter : Char} (plain : Plain letter) : isBlank letter = false := by
  obtain ⟨lower, upper, _⟩ := plain.range
  simp only [isBlank, Bool.or_eq_false_iff, Bool.and_eq_false_iff, decide_eq_false_iff_not,
    beq_eq_false_iff_ne]
  omega

theorem Plain.not_is_separator {letter : Char} (plain : Plain letter) :
    isSeparator letter = false := by
  have range := plain.range
  by_contra separates
  have blank : isSeparator letter = true := by simpa using separates
  simp only [isSeparator, Bool.or_eq_true, beq_iff_eq] at blank
  rcases blank with ((rfl | rfl) | rfl) | rfl <;> revert range <;> decide

theorem letters_ne_nil (written : Instruction) : written.letters ≠ [] := by
  intro none
  exact (is_name_letter_letters written.gate).1 (List.append_eq_nil_iff.1 none).1

theorem read_write {written : List Instruction}
    (accepted : ∀ instruction ∈ written, instruction.check = .ok ())
    (small : ∀ instruction ∈ written, ∀ qubit ∈ instruction.qubits, qubit < indexBound) :
    read (write written) = .ok written := by
  have found := @letters_words_intercalate isSeparator ' ' rfl (written.map Instruction.letters)
    (by
      intro piece member
      obtain ⟨instruction, _, rfl⟩ := List.mem_map.1 member
      exact ⟨letters_ne_nil instruction, fun letter inside =>
        (plain_letters instruction letter inside).not_is_separator⟩) 0
  rw [read, write]
  generalize words isSeparator 0 ([' '].intercalate (written.map Instruction.letters)) = list
    at found
  induction written generalizing list with
  | nil =>
      obtain rfl := List.map_eq_nil_iff.1 found
      rfl
  | cons first written ih =>
      obtain ⟨word, list, rfl, own, rest⟩ := List.map_eq_cons_iff.1 found
      obtain ⟨start, letters⟩ := word
      obtain rfl : letters = first.letters := own
      rw [List.mapM_cons, instruction_letters (accepted first List.mem_cons_self)
        (small first List.mem_cons_self),
        ih (fun other member => accepted other (List.mem_cons_of_mem _ member))
          (fun other member => small other (List.mem_cons_of_mem _ member)) list rest]
      rfl

end StabilizerPrep.Spec

namespace StabilizerPrep.Circuit

set_option autoImplicit false

theorem check_of_check_within {width : Nat} {instruction : Instruction}
    (fits : instruction.checkWithin width = .ok ()) : instruction.check = .ok () := by
  cases checked : instruction.check with
  | ok => rfl
  | error fault =>
      rw [Instruction.checkWithin, checked] at fits
      cases fits

theorem lt_of_check_within {width : Nat} {instruction : Instruction}
    (fits : instruction.checkWithin width = .ok ()) :
    ∀ qubit ∈ instruction.qubits, qubit < width := by
  obtain ⟨qubit, inside, listed, _⟩ | ⟨first, firstInside, second, secondInside, _, listed, _⟩ :=
    Instruction.cases_of_check_within fits
  · simpa [listed] using inside
  · simpa [listed] using ⟨firstInside, secondInside⟩

theorem of_instructions_of_well_formed {circuit : Circuit} (wellFormed : circuit.WellFormed) :
    ofInstructions circuit.width circuit.instructions = .ok circuit := by
  have checked : circuit.instructions.forM (Instruction.checkWithin circuit.width) = .ok () := by
    have every := wellFormed
    unfold WellFormed at every
    generalize circuit.instructions = list at every
    induction list with
    | nil => rfl
    | cons first list ih =>
        have rest := ih fun other member => every other (List.mem_cons_of_mem _ member)
        change (first.checkWithin circuit.width >>= fun _ =>
          list.forM (Instruction.checkWithin circuit.width)) = _
        rw [every first List.mem_cons_self]
        exact rest
  rw [ofInstructions, checked]
  rfl

theorem read_write {circuit : Circuit} (wellFormed : circuit.WellFormed)
    (small : circuit.width ≤ Spec.indexBound) :
    read circuit.width (Spec.write circuit.instructions) = .ok circuit := by
  have listed := Spec.read_write (fun instruction member =>
      check_of_check_within (wellFormed instruction member))
    (fun instruction member qubit inside => Nat.lt_of_lt_of_le
      (lt_of_check_within (wellFormed instruction member) qubit inside) small)
  rw [read, listed]
  exact of_instructions_of_well_formed wellFormed

end StabilizerPrep.Circuit

namespace StabilizerPrep.Bundled

set_option autoImplicit false

open Text

/-- The numbers of a row are in range and its gates fit the size. -/
structure Row.Proper (qubits : Nat) (row : Row) : Prop where
  graphId : row.graphId < 2 ^ (qubits * (qubits - 1) / 2)
  cost : row.cost < Table.countBound
  depth : row.depth < Table.countBound
  wellFormed : (Circuit.mk qubits (row.instructions qubits)).WellFormed

theorem plain_write {written : List Instruction} {letter : Char}
    (member : letter ∈ Spec.write written) : letter = ' ' ∨ Spec.Plain letter := by
  refine (mem_intercalate member).imp_right ?_
  rintro ⟨piece, pieceMember, inside⟩
  obtain ⟨instruction, _, rfl⟩ := List.mem_map.1 pieceMember
  exact Spec.plain_letters instruction letter inside

variable {qubits : Nat} {row : Row}

theorem read_row_line (small : qubits ≤ 6) (proper : row.Proper qubits) :
    Table.readRow qubits (row.line qubits) = .ok (row.template qubits) := by
  have free : ':' ∉ Spec.write (row.instructions qubits) := by
    intro member
    rcases plain_write member with blank | plain
    · cases blank
    · exact absurd rfl plain.range.2.2
  have pieces : split ':' (row.line qubits) =
      [Nat.toDigits 10 row.graphId, Nat.toDigits 10 row.cost, Nat.toDigits 10 row.depth,
        Spec.write (row.instructions qubits)] := by
    rw [Row.line, split_append (not_mem_to_digits rfl _), split_append (not_mem_to_digits rfl _),
      split_append (not_mem_to_digits rfl _), split_of_free free]
  have pairs : qubits * (qubits - 1) / 2 ≤ 64 := by
    have product : qubits * (qubits - 1) ≤ 6 * 5 := Nat.mul_le_mul small (by omega)
    omega
  have number : row.graphId < Table.idBound :=
    Nat.lt_of_lt_of_le proper.graphId (Nat.pow_le_pow_right (by decide) pairs)
  have circuit := Circuit.read_write proper.wellFormed
    (Nat.le_trans small (by decide : 6 ≤ Spec.indexBound))
  simp only [Table.readRow, pieces, Table.readField, read_number_to_digits number,
    read_number_to_digits proper.cost, read_number_to_digits proper.depth]
  change (if _ then _ else _) = _
  rw [if_neg (Nat.not_le.2 proper.graphId)]
  simp only [bind, Except.bind, circuit]
  rfl

theorem newline_not_mem_line : '\n' ∉ row.line qubits := by
  intro member
  simp only [Row.line, List.mem_append, List.mem_cons] at member
  rcases member with digits | colon | digits | colon | digits | colon | spec
  · exact not_mem_to_digits rfl _ digits
  · cases colon
  · exact not_mem_to_digits rfl _ digits
  · cases colon
  · exact not_mem_to_digits rfl _ digits
  · cases colon
  · rcases plain_write spec with blank | plain
    · cases blank
    · exact absurd plain.range.1 (by decide)

theorem trim_line (positive : 0 < qubits) : trim (row.line qubits) = row.line qubits := by
  obtain ⟨digit, tail, listed, decimal⟩ := Spec.exists_to_digits_eq_cons row.graphId
  have some : row.instructions qubits ≠ [] := by
    intro none
    have empty := (List.append_eq_nil_iff.1 none).1
    rw [List.map_eq_nil_iff, List.range_eq_nil] at empty
    omega
  obtain ⟨instruction, others, ends⟩ : ∃ instruction others,
      row.instructions qubits = others ++ [instruction] :=
    ⟨_, _, (List.dropLast_append_getLast some).symm⟩
  obtain ⟨front, written⟩ : ∃ front, Spec.write (row.instructions qubits) =
      front ++ instruction.letters := by
    rw [Spec.write, ends, List.map_append]
    exact exists_intercalate_eq_append _ _
  have filled := Spec.letters_ne_nil instruction
  obtain ⟨init, last, closes⟩ : ∃ init last, instruction.letters = init ++ [last] :=
    ⟨_, _, (List.dropLast_append_getLast filled).symm⟩
  have plain : Spec.Plain last := Spec.plain_letters instruction last (by simp [closes])
  have starts : row.line qubits = digit :: (tail ++ ':' :: (Nat.toDigits 10 row.cost ++ ':' ::
      (Nat.toDigits 10 row.depth ++ ':' :: Spec.write (row.instructions qubits)))) := by
    rw [Row.line, listed, List.cons_append]
  have stops : row.line qubits = (Nat.toDigits 10 row.graphId ++ ':' ::
      (Nat.toDigits 10 row.cost ++ ':' :: (Nat.toDigits 10 row.depth ++ ':' ::
        (front ++ init)))) ++ [last] := by
    rw [Row.line, written, closes]
    simp
  exact trim_of_ends starts stops (Spec.Plain.visible (.inr (.inl decimal))) plain.visible

theorem read_rows_of_lines {α β : Type} (name : String) {read : List Char → Except TableFault α}
    {line : β → List Char} {row : β → α} {items : List β}
    (taken : ∀ item ∈ items, read (line item) = .ok (row item)) {lines : List (Nat × List Char)}
    (listed : lines.map Prod.snd = items.map line) :
    Table.readRows name read lines = .ok (items.map row) := by
  rw [Table.readRows]
  induction items generalizing lines with
  | nil =>
      obtain rfl := List.map_eq_nil_iff.1 listed
      rfl
  | cons item items ih =>
      obtain ⟨entry, rest, rfl, own, others⟩ := List.map_eq_cons_iff.1 listed
      obtain ⟨number, letters⟩ := entry
      obtain rfl : letters = line item := own
      rw [List.mapM_cons,
        ih (fun other member => taken other (List.mem_cons_of_mem _ member)) others]
      simp only [taken item List.mem_cons_self]
      rfl

/-- A bundled table is read as the templates of its rows. -/
theorem parse_text {name : String} {device : Device} {rows : List Row} (large : 2 ≤ qubits)
    (small : qubits ≤ 6) (proper : ∀ row ∈ rows, row.Proper qubits)
    (count : LocalClass.count qubits = .ok rows.length) :
    Table.parse name qubits device (text qubits rows) =
      .ok ⟨qubits, device, rows.map (Row.template qubits)⟩ := by
  have letters : (text qubits rows).toList =
      (rows.map (Row.line qubits)).flatMap (· ++ ['\n']) := by
    rw [text, String.toList_ofList, List.flatMap_map]
  have lines := @numbered_lines_of_lines (rows.map (Row.line qubits))
    (by
      rw [List.forall_mem_map]
      exact fun _ _ => newline_not_mem_line)
    (by
      rw [List.forall_mem_map]
      exact fun _ _ => trim_line (by omega))
    (by
      rw [List.forall_mem_map]
      intro row _ none
      exact absurd (List.append_eq_nil_iff.1 none).1 Nat.toDigits_ne_nil)
  have taken := read_rows_of_lines name
    (fun row member => read_row_line small (proper row member)) lines
  rw [Table.parse, letters, Table.read, count]
  change (Table.readRows name (Table.readRow qubits) _ >>= _) = _
  rw [taken]
  change (if _ then _ else _) = _
  rw [if_pos (List.length_map _)]

end StabilizerPrep.Bundled
