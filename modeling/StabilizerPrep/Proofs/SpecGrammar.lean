import StabilizerPrep.Proofs.Requests
import StabilizerPrep.Proofs.TableText

/-!
# The grammar of gate specifications

A specification is a sequence of instructions between blanks. Two instructions
have at least one blank between them, and there is none within an instruction:
a gate identifier is directly followed by its operands, with one comma between
two of them. Reading accepts exactly the texts of this form, and gives the
instructions in their order.
-/

namespace StabilizerPrep.Text

set_option autoImplicit false

theorem split_ne_nil (separator : Char) (text : List Char) : split separator text ≠ [] := by
  cases text with
  | nil => simp [split]
  | cons letter text =>
      by_cases separates : letter = separator
      · rw [separates, split_cons_separator]
        exact List.cons_ne_nil _ _
      · rw [split_cons separates]
        split <;> exact List.cons_ne_nil _ _

theorem split_eq_cons {separator : Char} {text piece : List Char} {others : List (List Char)}
    (cut : split separator text = piece :: others) :
    (text = piece ∧ others = []) ∨
      ∃ rest, text = piece ++ separator :: rest ∧ split separator rest = others := by
  induction text generalizing piece others with
  | nil =>
      obtain ⟨rfl, rfl⟩ := List.cons.inj cut
      exact .inl ⟨rfl, rfl⟩
  | cons letter text ih =>
      by_cases separates : letter = separator
      · subst separates
        rw [split_cons_separator] at cut
        obtain ⟨rfl, rfl⟩ := List.cons.inj cut
        exact .inr ⟨text, rfl, rfl⟩
      · obtain ⟨first, pieces, later⟩ := List.exists_cons_of_ne_nil (split_ne_nil separator text)
        rw [split_cons separates, later] at cut
        obtain ⟨rfl, rfl⟩ := List.cons.inj cut
        rcases ih later with ⟨rfl, none⟩ | ⟨rest, rfl, again⟩
        · exact .inl ⟨rfl, none⟩
        · exact .inr ⟨rest, rfl, again⟩

variable {isSeparator : Char → Bool}

theorem words_separators {blanks : List Char}
    (separate : ∀ letter ∈ blanks, isSeparator letter = true) (offset : Nat) (rest : List Char) :
    ∃ next, words isSeparator offset (blanks ++ rest) = words isSeparator next rest := by
  induction blanks generalizing offset with
  | nil => exact ⟨offset, rfl⟩
  | cons letter blanks ih =>
      obtain ⟨next, same⟩ := ih (fun other member => separate other (List.mem_cons_of_mem _ member))
        (offset + letter.utf8Size)
      refine ⟨next, ?_⟩
      rw [List.cons_append, words]
      simp only [separate letter List.mem_cons_self, if_true]
      exact same

theorem words_of_separators {blanks : List Char}
    (separate : ∀ letter ∈ blanks, isSeparator letter = true) (offset : Nat) :
    words isSeparator offset blanks = [] := by
  obtain ⟨next, same⟩ := words_separators separate offset []
  rwa [List.append_nil] at same

theorem words_cases (offset : Nat) (text : List Char) :
    (∀ letter ∈ text, isSeparator letter = true) ∨
      ∃ lead letter tail after start next, text = lead ++ letter :: (tail ++ after) ∧
        (∀ blank ∈ lead, isSeparator blank = true) ∧
        (∀ other ∈ letter :: tail, isSeparator other = false) ∧
        (∀ other ∈ after.head?, isSeparator other = true) ∧
        words isSeparator offset text =
          ⟨start, letter :: tail⟩ :: words isSeparator next after := by
  have joined : text = text.takeWhile isSeparator ++ text.dropWhile isSeparator :=
    List.takeWhile_append_dropWhile.symm
  have separate : ∀ letter ∈ text.takeWhile isSeparator, isSeparator letter = true :=
    fun _ member => List.mem_takeWhile_imp member
  generalize text.takeWhile isSeparator = lead at joined separate
  cases first : text.dropWhile isSeparator with
  | nil =>
      rw [first, List.append_nil] at joined
      exact .inl (joined ▸ separate)
  | cons letter rest =>
      have visible : isSeparator letter = false := by
        have head := List.head?_dropWhile_not isSeparator text
        rw [first] at head
        simpa using head
      have pieces : rest = rest.takeWhile (fun other => !isSeparator other) ++
          rest.dropWhile (fun other => !isSeparator other) :=
        List.takeWhile_append_dropWhile.symm
      have letters : ∀ other ∈ letter :: rest.takeWhile (fun other => !isSeparator other),
          isSeparator other = false := by
        intro other member
        rcases List.mem_cons.1 member with rfl | later
        · exact visible
        · simpa using List.mem_takeWhile_imp later
      have ends : ∀ other ∈ (rest.dropWhile fun other => !isSeparator other).head?,
          isSeparator other = true := by
        intro other member
        have head := List.head?_dropWhile_not (fun other => !isSeparator other) rest
        rw [Option.mem_def] at member
        rw [member] at head
        simpa using head
      rw [first] at joined
      obtain ⟨start, skipped⟩ := words_separators separate offset (letter :: rest)
      obtain ⟨next, found⟩ := words_append letters _ ends start
      rw [← pieces] at found
      refine .inr ⟨lead, letter, _, _, start, next, ?_, separate, letters, ends, ?_⟩
      · rw [← pieces]
        exact joined
      · rw [joined, skipped, found]

end StabilizerPrep.Text

namespace StabilizerPrep.Spec

set_option autoImplicit false

open Text

def Blanks (letters : List Char) : Prop :=
  ∀ letter ∈ letters, letter ∈ [' ', '\t', '\r', '\n']

structure IndexText (digits : List Char) (index : Nat) : Prop where
  filled : digits ≠ []
  decimal : ∀ digit ∈ digits, digit.isDigit = true
  value : Nat.ofDigitChars 10 digits 0 = index
  small : index < 2 ^ 32

inductive OperandText : List Char → List Nat → Prop where
  | last {digits : List Char} {index : Nat} :
      IndexText digits index → OperandText digits [index]
  | more {digits rest : List Char} {index : Nat} {indices : List Nat} :
      IndexText digits index → OperandText rest indices →
        OperandText (digits ++ ',' :: rest) (index :: indices)

/-- The identifier of a gate directly followed by its operands, of which there
are as many as the gate takes and no two are the same. -/
structure WordText (letters : List Char) (instruction : Instruction) : Prop where
  spelled : ∃ operands, letters = instruction.gate.letters ++ operands ∧
    OperandText operands instruction.qubits
  count : instruction.qubits.length = instruction.gate.arity
  distinct : instruction.qubits.Nodup

inductive SequenceText : List Char → List Instruction → Prop where
  | last {letters : List Char} {instruction : Instruction} :
      WordText letters instruction → SequenceText letters [instruction]
  | more {letters gap rest : List Char} {instruction : Instruction}
      {instructions : List Instruction} :
      WordText letters instruction → Blanks gap → gap ≠ [] → SequenceText rest instructions →
        SequenceText (letters ++ (gap ++ rest)) (instruction :: instructions)

inductive SpecText : List Char → List Instruction → Prop where
  | blank {letters : List Char} : Blanks letters → SpecText letters []
  | filled {lead body trail : List Char} {instructions : List Instruction} :
      Blanks lead → SequenceText body instructions → Blanks trail →
        SpecText (lead ++ (body ++ trail)) instructions

theorem is_separator_iff (letter : Char) :
    isSeparator letter = true ↔ letter ∈ [' ', '\t', '\r', '\n'] := by
  simp [isSeparator, or_assoc]

theorem blanks_iff (letters : List Char) :
    Blanks letters ↔ ∀ letter ∈ letters, isSeparator letter = true := by
  simp only [Blanks, is_separator_iff]

theorem index?_eq_some_iff {digits : List Char}
    (decimal : ∀ digit ∈ digits, digit.isDigit = true) (index : Nat) :
    index? digits = some index ↔ IndexText digits index := by
  rw [index?]
  constructor
  · intro found
    split at found
    · cases found
    next accepted =>
        obtain rfl := Option.some.inj found
        simp only [Bool.or_eq_true, decide_eq_true_eq, not_or, Nat.not_le] at accepted
        exact ⟨by simpa using accepted.1, decimal, rfl, accepted.2⟩
  · rintro ⟨filled, -, rfl, small⟩
    have bound : ¬indexBound ≤ Nat.ofDigitChars 10 digits 0 := Nat.not_le.2 small
    simp [filled, bound]

theorem operands_eq_ok_iff (name : List Char) (offset : Nat) (pieces : List (List Char))
    (indices : List Nat) :
    operands name offset pieces = .ok indices ↔ List.Forall₂ IndexText pieces indices := by
  induction pieces generalizing offset indices with
  | nil =>
      rw [operands, List.forall₂_nil_left_iff]
      exact ⟨fun same => (Except.ok.inj same).symm, fun same => same ▸ rfl⟩
  | cons piece others ih =>
      have decimal : ∀ digit ∈ piece.takeWhile Char.isDigit, digit.isDigit = true :=
        fun _ member => List.mem_takeWhile_imp member
      rw [operands]
      constructor
      · intro accepted
        split at accepted
        · cases accepted
        next index found =>
            split at accepted
            · cases accepted
            next whole =>
                have same : piece.takeWhile Char.isDigit = piece :=
                  (List.takeWhile_prefix _).eq_of_length_le (Nat.le_of_not_lt whole)
                obtain ⟨rest, later, done⟩ := exists_of_bind_ok accepted
                obtain rfl := Except.ok.inj done
                have own := (index?_eq_some_iff decimal index).1 found
                rw [same] at own
                exact .cons own ((ih _ _).1 later)
      · intro listed
        obtain ⟨index, rest, own, later, rfl⟩ := List.forall₂_cons_left_iff.1 listed
        have same : piece.takeWhile Char.isDigit = piece := by
          have taken := @take_while_append_of_all Char.isDigit piece [] own.decimal (by simp)
          simpa using taken
        simp only [same, (index?_eq_some_iff own.decimal index).2 own, Nat.lt_irrefl, if_false]
        rw [(ih _ _).2 later]
        rfl

theorem IndexText.not_mem {digits : List Char} {index : Nat} (own : IndexText digits index) :
    ',' ∉ digits := by
  intro member
  exact absurd (own.decimal ',' member) (by decide)

theorem forall₂_split_iff (letters : List Char) (indices : List Nat) :
    List.Forall₂ IndexText (split ',' letters) indices ↔ OperandText letters indices := by
  constructor
  · intro listed
    generalize cut : split ',' letters = pieces at listed
    induction listed generalizing letters with
    | nil => exact absurd cut (split_ne_nil ',' letters)
    | cons own later ih =>
        rcases split_eq_cons cut with ⟨rfl, rfl⟩ | ⟨rest, rfl, again⟩
        · cases later
          exact .last own
        · exact .more own (ih rest again)
  · intro derived
    induction derived with
    | last own =>
        rw [split_of_free own.not_mem]
        exact .cons own .nil
    | more own _ ih =>
        rw [split_append own.not_mem]
        exact .cons own ih

theorem OperandText.head {letters : List Char} {indices : List Nat}
    (derived : OperandText letters indices) :
    ∃ digit rest, letters = digit :: rest ∧ digit.isDigit = true := by
  cases derived with
  | last own =>
      obtain ⟨digit, rest, rfl⟩ := List.exists_cons_of_ne_nil own.filled
      exact ⟨digit, rest, rfl, own.decimal digit List.mem_cons_self⟩
  | more own later =>
      obtain ⟨digit, rest, rfl⟩ := List.exists_cons_of_ne_nil own.filled
      exact ⟨digit, _, rfl, own.decimal digit List.mem_cons_self⟩

theorem OperandText.plain {letters : List Char} {indices : List Nat}
    (derived : OperandText letters indices) : ∀ letter ∈ letters, Plain letter := by
  induction derived with
  | last own => exact fun letter member => .inr (.inl (own.decimal letter member))
  | more own _ ih =>
      intro letter member
      rcases List.mem_append.1 member with front | back
      · exact .inr (.inl (own.decimal letter front))
      · rcases List.mem_cons.1 back with comma | later
        · exact .inr (.inr comma)
        · exact ih letter later

theorem check_eq_ok_iff (instruction : Instruction) :
    instruction.check = .ok () ↔
      instruction.qubits.length = instruction.gate.arity ∧ instruction.qubits.Nodup := by
  have arities : instruction.gate.arity = 1 ∨ instruction.gate.arity = 2 := by
    cases instruction.gate <;> decide
  rw [Instruction.check]
  split
  next other =>
      constructor
      · intro impossible
        cases impossible
      · intro both
        exact absurd both.1 other
  next count =>
      have length : instruction.qubits.length = instruction.gate.arity := not_not.1 count
      rcases listed : instruction.qubits with _ | ⟨first, _ | ⟨second, _ | ⟨third, rest⟩⟩⟩
      · simp [listed] at length
        omega
      · simpa [listed] using length
      · by_cases same : first = second
        · simp [same]
        · simpa [same, listed] using length
      · simp [listed] at length
        omega

theorem make_eq_ok_iff (gate : Gate) (qubits : List Nat) (instruction : Instruction) :
    Instruction.make gate qubits = .ok instruction ↔
      instruction = ⟨gate, qubits⟩ ∧ qubits.length = gate.arity ∧ qubits.Nodup := by
  have checked := check_eq_ok_iff ⟨gate, qubits⟩
  rw [Instruction.make]
  cases outcome : (Instruction.mk gate qubits).check with
  | error fault =>
      rw [outcome] at checked
      constructor
      · intro impossible
        cases impossible
      · rintro ⟨-, accepted⟩
        cases checked.2 accepted
  | ok =>
      rw [outcome] at checked
      constructor
      · intro made
        exact ⟨(Except.ok.inj made).symm, checked.1 rfl⟩
      · rintro ⟨rfl, -⟩
        rfl

theorem eq_letters_of_letters? {letters : List Char} {gate : Gate}
    (found : Gate.ofLetters? letters = some gate) : letters = gate.letters := by
  have same := List.find?_some found
  exact (beq_iff_eq.1 same).symm

/-- A word is read as an instruction exactly when it is a text of it. -/
theorem instruction_eq_ok_iff (start : Nat) (letters : List Char) (read : Instruction) :
    instruction ⟨start, letters⟩ = .ok read ↔ WordText letters read := by
  constructor
  · intro accepted
    rw [instruction] at accepted
    dsimp only at accepted
    split at accepted
    · cases accepted
    next named =>
        split at accepted
        · cases accepted
        next gate found =>
            have name := eq_letters_of_letters? found
            generalize taken : letters.takeWhile isNameLetter = front at *
            obtain ⟨qubits, later, done⟩ := exists_of_bind_ok accepted
            obtain ⟨rfl, count, distinct⟩ := (make_eq_ok_iff gate qubits read).1 done
            have derived := (forall₂_split_iff _ _).1 ((operands_eq_ok_iff _ _ _ _).1 later)
            refine ⟨⟨letters.drop front.length, ?_, derived⟩, count, distinct⟩
            have begins : front <+: letters := taken ▸ List.takeWhile_prefix isNameLetter
            rw [← name]
            exact (List.prefix_iff_eq_append.1 begins).symm
  · rintro ⟨⟨operandLetters, rfl, derived⟩, count, distinct⟩
    obtain ⟨gate, qubits⟩ := read
    obtain ⟨filled, named⟩ := is_name_letter_letters gate
    obtain ⟨digit, rest, starts, decimal⟩ := derived.head
    have stops : ∀ letter ∈ operandLetters.head?, isNameLetter letter = false := by
      intro letter first
      rw [starts, List.head?_cons, Option.mem_some_iff] at first
      rw [← first]
      exact not_is_name_letter_of_is_digit decimal
    have taken : (gate.letters ++ operandLetters).takeWhile isNameLetter = gate.letters :=
      take_while_append_of_all named stops
    rw [instruction]
    simp only [taken, List.isEmpty_eq_false_iff.2 filled, Bool.false_eq_true, if_false,
      Gate.of_letters?_letters, List.drop_left]
    rw [(operands_eq_ok_iff _ _ _ _).2 ((forall₂_split_iff _ _).2 derived)]
    exact (make_eq_ok_iff gate qubits _).2 ⟨rfl, count, distinct⟩

theorem WordText.head {letters : List Char} {instruction : Instruction}
    (derived : WordText letters instruction) :
    ∃ letter rest, letters = letter :: rest ∧
      ∀ other ∈ letter :: rest, isSeparator other = false := by
  obtain ⟨⟨operandLetters, rfl, operandText⟩, -, -⟩ := derived
  obtain ⟨filled, named⟩ := is_name_letter_letters instruction.gate
  obtain ⟨letter, rest, listed⟩ := List.exists_cons_of_ne_nil filled
  refine ⟨letter, rest ++ operandLetters, by rw [listed, List.cons_append], ?_⟩
  rw [← List.cons_append, ← listed]
  intro other member
  refine Plain.not_is_separator ?_
  rcases List.mem_append.1 member with front | back
  · exact .inl (named other front)
  · exact operandText.plain other back

theorem SequenceText.head {letters : List Char} {instructions : List Instruction}
    (derived : SequenceText letters instructions) :
    ∃ letter rest, letters = letter :: rest ∧ isSeparator letter = false := by
  cases derived with
  | last word =>
      obtain ⟨letter, rest, rfl, visible⟩ := word.head
      exact ⟨letter, rest, rfl, visible letter List.mem_cons_self⟩
  | more word _ _ _ =>
      obtain ⟨letter, rest, rfl, visible⟩ := word.head
      exact ⟨letter, _, rfl, visible letter List.mem_cons_self⟩

theorem mapM_words_of_sequence_text {body : List Char} {instructions : List Instruction}
    (derived : SequenceText body instructions) {trail : List Char} (blank : Blanks trail)
    (offset : Nat) :
    (words isSeparator offset (body ++ trail)).mapM instruction = .ok instructions := by
  have separators := (blanks_iff trail).1 blank
  induction derived generalizing offset with
  | last word =>
      obtain ⟨letter, rest, rfl, letters⟩ := word.head
      obtain ⟨next, found⟩ := words_append letters trail
        (fun other member => separators other (List.mem_of_mem_head? member)) offset
      rw [List.cons_append, found, words_of_separators separators, List.mapM_cons,
        (instruction_eq_ok_iff _ _ _).2 word]
      rfl
  | @more _ gap later _ _ word between filled _ ih =>
      obtain ⟨letter, rest, rfl, letters⟩ := word.head
      obtain ⟨first, others, rfl⟩ := List.exists_cons_of_ne_nil filled
      have gapSeparators := (blanks_iff _).1 between
      obtain ⟨next, found⟩ := words_append letters ((first :: others) ++ (later ++ trail))
        (by simpa using gapSeparators first List.mem_cons_self) offset
      obtain ⟨start, skipped⟩ := words_separators gapSeparators next (later ++ trail)
      rw [List.append_assoc, List.append_assoc, List.cons_append, found, skipped, List.mapM_cons,
        (instruction_eq_ok_iff _ _ _).2 word, ih]
      rfl

theorem SpecText.cons {lead word after : List Char} {instruction : Instruction}
    {instructions : List Instruction} (blank : Blanks lead) (own : WordText word instruction)
    (separated : ∀ letter ∈ after.head?, isSeparator letter = true)
    (later : SpecText after instructions) :
    SpecText (lead ++ (word ++ after)) (instruction :: instructions) := by
  cases later with
  | blank trail => exact .filled blank (.last own) trail
  | @filled gap body trail _ between derived end_ =>
      have filled : gap ≠ [] := by
        rintro rfl
        obtain ⟨letter, rest, rfl, visible⟩ := derived.head
        have separator := separated letter rfl
        rw [visible] at separator
        cases separator
      have joined : word ++ (gap ++ (body ++ trail)) = word ++ (gap ++ body) ++ trail := by
        simp
      rw [joined]
      exact .filled blank (.more own between filled derived) end_

/-- What is read word by word is the text of a specification. Each step takes
off the first word with the blanks before it. -/
theorem spec_text_of_mapM_words {text : List Char} {offset : Nat}
    {instructions : List Instruction}
    (accepted : (words isSeparator offset text).mapM instruction = .ok instructions) :
    SpecText text instructions := by
  induction size : text.length using Nat.strong_induction_on
    generalizing text offset instructions with
  | _ size ih =>
      rcases words_cases offset text with blank |
        ⟨lead, letter, tail, after, start, next, rfl, blank, letters, ends, found⟩
      · rw [words_of_separators blank] at accepted
        obtain rfl := Except.ok.inj accepted
        exact .blank ((blanks_iff text).2 blank)
      · rw [found, List.mapM_cons] at accepted
        obtain ⟨first, own, accepted⟩ := exists_of_bind_ok accepted
        obtain ⟨others, rest, done⟩ := exists_of_bind_ok accepted
        obtain rfl := Except.ok.inj done
        have later := ih after.length (by simp at size; omega) rest rfl
        have word := (instruction_eq_ok_iff _ _ _).1 own
        exact .cons ((blanks_iff lead).2 blank) word ends later

/-- Reading accepts a text exactly when it is the text of a specification, and
gives the instructions it denotes. -/
theorem read_eq_ok_iff (letters : List Char) (instructions : List Instruction) :
    read letters = .ok instructions ↔ SpecText letters instructions := by
  constructor
  · exact spec_text_of_mapM_words
  · intro derived
    rw [read]
    cases derived with
    | blank blanks => rw [words_of_separators ((blanks_iff _).1 blanks)]; rfl
    | @filled lead body trail _ blanks derived after =>
        obtain ⟨start, skipped⟩ := words_separators ((blanks_iff lead).1 blanks) 0 (body ++ trail)
        rw [skipped]
        exact mapM_words_of_sequence_text derived after start

/-- Parsing accepts exactly the texts of specifications, and gives the
instructions in their order. Instructions that can be made from 32-bit indices
are read back from what is rendered. -/
theorem parse_accepts_grammar :
    (∀ (spec : String) (instructions : List Instruction),
      parse spec = .ok instructions ↔ SpecText spec.toList instructions) ∧
    ∀ instructions : List Instruction,
      (∀ instruction ∈ instructions,
        Instruction.make instruction.gate instruction.qubits = .ok instruction ∧
          ∀ qubit ∈ instruction.qubits, qubit < 2 ^ 32) →
      parse (render instructions) = .ok instructions := by
  refine ⟨fun spec => read_eq_ok_iff spec.toList, ?_⟩
  intro instructions made
  rw [parse, render, String.toList_ofList]
  apply read_write
  · intro instruction member
    have accepted := (make_eq_ok_iff _ _ _).1 (made instruction member).1
    exact (check_eq_ok_iff instruction).2 accepted.2
  · exact fun instruction member => (made instruction member).2

/-- Leading zeros, blanks of several kinds and the largest index. -/
theorem parse_accepts_grammar_blanks :
    SpecText "\tcx01,0\r\n sdg4294967295 ".toList [⟨.cx, [1, 0]⟩, ⟨.sdg, [4294967295]⟩] ∧
      parse "\tcx01,0\r\n sdg4294967295 " = .ok [⟨.cx, [1, 0]⟩, ⟨.sdg, [4294967295]⟩] ∧
      parse (render [⟨.cx, [1, 0]⟩, ⟨.sdg, [4294967295]⟩]) =
        .ok [⟨.cx, [1, 0]⟩, ⟨.sdg, [4294967295]⟩] := by
  have one : IndexText ['0', '1'] 1 :=
    ⟨by decide, List.all_eq_true.1 rfl, by decide, by decide⟩
  have zero : IndexText ['0'] 0 := ⟨by decide, List.all_eq_true.1 rfl, by decide, by decide⟩
  have largest : IndexText "4294967295".toList 4294967295 :=
    ⟨by decide, List.all_eq_true.1 rfl, by decide, by decide⟩
  have first : WordText "cx01,0".toList ⟨.cx, [1, 0]⟩ :=
    ⟨⟨_, rfl, .more one (.last zero)⟩, rfl, by decide⟩
  have second : WordText "sdg4294967295".toList ⟨.sdg, [4294967295]⟩ :=
    ⟨⟨_, rfl, .last largest⟩, rfl, by decide⟩
  have gap : Blanks ['\r', '\n', ' '] := by simp [Blanks]
  have derived : SpecText "\tcx01,0\r\n sdg4294967295 ".toList
      [⟨.cx, [1, 0]⟩, ⟨.sdg, [4294967295]⟩] :=
    @SpecText.filled ['\t'] _ [' '] _ (by simp [Blanks])
      (.more first gap (by simp) (.last second)) (by simp [Blanks])
  exact ⟨derived, (parse_accepts_grammar.1 _ _).2 derived, parse_accepts_grammar.2 _ (by decide)⟩

end StabilizerPrep.Spec
