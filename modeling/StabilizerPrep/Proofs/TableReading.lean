import StabilizerPrep.Proofs.SpecGrammar

/-!
# Reading template tables

The lines of a table stand between line feeds, and the fields of a row between
colons. A table is read exactly if it has one well-formed row for each class,
and then its templates are those of the rows in their order. Otherwise the
fault names the first line that is no row, with the first of its fields that is
wrong, or no line at all if only the number of the rows is wrong.
-/

namespace StabilizerPrep

set_option autoImplicit false

theorem exists_forall₂_iff {α β : Type} {related : α → β → Prop} {items : List α} :
    (∃ results, List.Forall₂ related items results) ↔
      ∀ item ∈ items, ∃ result, related item result := by
  induction items with
  | nil => simp
  | cons item items ih =>
      rw [List.forall_mem_cons, ← ih]
      constructor
      · rintro ⟨results, paired⟩
        cases paired with
        | cons own others => exact ⟨⟨_, own⟩, _, others⟩
      · rintro ⟨⟨result, own⟩, results, others⟩
        exact ⟨result :: results, .cons own others⟩

namespace Text

/-- The pieces hold no separator, and they make up the text with one separator
between two of them. -/
structure Cut (separator : Char) (text : List Char) (pieces : List (List Char)) : Prop where
  nonempty : pieces ≠ []
  joined : [separator].intercalate pieces = text
  free : ∀ piece ∈ pieces, separator ∉ piece

theorem cut_split (separator : Char) (text : List Char) :
    Cut separator text (split separator text) := by
  induction text with
  | nil => exact ⟨by simp [split], rfl, by simp [split]⟩
  | cons letter text ih =>
      obtain ⟨nonempty, joined, free⟩ := ih
      obtain ⟨piece, others, cut⟩ := List.exists_cons_of_ne_nil nonempty
      rw [cut] at joined free
      by_cases separates : letter = separator
      · subst separates
        rw [split_cons_separator, cut]
        refine ⟨List.cons_ne_nil _ _, ?_, List.forall_mem_cons.2 ⟨List.not_mem_nil, free⟩⟩
        rw [← joined]
        simp [List.intercalate]
      · obtain ⟨own, later⟩ := List.forall_mem_cons.1 free
        rw [split_cons separates, cut]
        refine ⟨List.cons_ne_nil _ _, ?_, List.forall_mem_cons.2 ⟨?_, later⟩⟩
        · rw [← joined]
          cases others <;> simp [List.intercalate]
        · exact fun member => (List.mem_cons.1 member).elim (Ne.symm separates) own

theorem cut_iff {separator : Char} {text : List Char} {pieces : List (List Char)} :
    Cut separator text pieces ↔ split separator text = pieces := by
  constructor
  · rintro ⟨nonempty, rfl, free⟩
    obtain ⟨piece, others, rfl⟩ := List.exists_cons_of_ne_nil nonempty
    exact split_intercalate free
  · rintro rfl
    exact cut_split separator text

def Trimmed (text body : List Char) : Prop :=
  ∃ before after, text = before ++ (body ++ after) ∧
    (∀ letter ∈ before ++ after, isBlank letter = true) ∧
    (∀ letter ∈ body.head?, isBlank letter = false) ∧
    ∀ letter ∈ body.getLast?, isBlank letter = false

theorem head?_drop_while_visible (text : List Char) :
    ∀ letter ∈ (text.dropWhile isBlank).head?, isBlank letter = false := by
  intro letter first
  have stops := List.head?_dropWhile_not isBlank text
  rwa [first] at stops

theorem drop_while_of_visible {text : List Char}
    (visible : ∀ letter ∈ text.head?, isBlank letter = false) : text.dropWhile isBlank = text := by
  cases text with
  | nil => rfl
  | cons letter text => exact drop_while_of_head (visible letter rfl)

theorem trimmed_trim (text : List Char) : Trimmed text (trim text) := by
  let middle := text.dropWhile isBlank
  let back := middle.reverse.takeWhile isBlank
  have whole : trim text ++ back.reverse = middle := by
    rw [trim, ← List.reverse_append, List.takeWhile_append_dropWhile, List.reverse_reverse]
  refine ⟨text.takeWhile isBlank, back.reverse, ?_, ?_, ?_, ?_⟩
  · rw [whole, List.takeWhile_append_dropWhile]
  · intro letter member
    rcases List.mem_append.1 member with front | rear
    · exact List.mem_takeWhile_imp front
    · exact List.mem_takeWhile_imp (List.mem_reverse.1 rear)
  · intro letter first
    apply head?_drop_while_visible text
    change letter ∈ middle.head?
    rw [← whole, List.head?_append, first]
    rfl
  · intro letter last
    rw [trim, List.getLast?_reverse] at last
    exact head?_drop_while_visible _ letter last

theorem trim_of_blanks {text : List Char} (blanks : ∀ letter ∈ text, isBlank letter = true) :
    trim text = [] := by
  rw [trim, List.dropWhile_eq_nil_iff.2 blanks]
  rfl

theorem trimmed_iff {text body : List Char} : Trimmed text body ↔ trim text = body := by
  constructor
  · rintro ⟨before, after, rfl, blanks, first, last⟩
    cases body with
    | nil => exact trim_of_blanks blanks
    | cons letter body =>
        obtain ⟨front, rear⟩ := List.forall_mem_append.1 blanks
        have starts : ((letter :: body) ++ after).dropWhile isBlank = (letter :: body) ++ after :=
          drop_while_of_head (first letter rfl)
        have stops : (letter :: body).reverse.dropWhile isBlank = (letter :: body).reverse :=
          drop_while_of_visible (by rwa [List.head?_reverse])
        rw [trim, List.dropWhile_append_of_pos front, starts, List.reverse_append,
          List.dropWhile_append_of_pos fun other member => rear other (List.mem_reverse.1 member),
          stops, List.reverse_reverse]
  · rintro rfl
    exact trimmed_trim text

/-- The line with the given number, counted from one, is not blank, and this is
what is left of it without the blanks at its ends. -/
def IsRow (text : List Char) (number : Nat) (row : List Char) : Prop :=
  ∃ lines line, Cut '\n' text lines ∧ 1 ≤ number ∧ lines[number - 1]? = some line ∧
    Trimmed line row ∧ row ≠ []

theorem mem_numbered_lines {text : List Char} {number : Nat} {row : List Char} :
    (number, row) ∈ numberedLines text ↔ IsRow text number row := by
  rw [numberedLines, List.mem_filterMap]
  constructor
  · rintro ⟨⟨line, place⟩, listed, kept⟩
    obtain ⟨positive, found⟩ := List.mk_mem_zipIdx_iff_le_and_getElem?_sub.1 listed
    rw [List.getElem?_map, Option.map_eq_some_iff] at found
    obtain ⟨whole, found, rfl⟩ := found
    simp only at kept
    split at kept
    · cases kept
    next filled =>
      obtain ⟨rfl, rfl⟩ := Prod.mk.inj (Option.some.inj kept)
      exact ⟨_, whole, cut_split _ _, positive, found, trimmed_trim whole, by simpa using filled⟩
  · rintro ⟨lines, line, cut, positive, found, trimmed, filled⟩
    obtain rfl := cut_iff.1 cut
    obtain rfl := trimmed_iff.1 trimmed
    refine ⟨(trim line, number), List.mk_mem_zipIdx_iff_le_and_getElem?_sub.2 ⟨positive, ?_⟩, ?_⟩
    · rw [List.getElem?_map, found]
      rfl
    · simp [filled]

theorem pairwise_zip_idx {α : Type} (items : List α) (start : Nat) :
    (items.zipIdx start).Pairwise fun earlier later => earlier.2 < later.2 := by
  induction items generalizing start with
  | nil => exact .nil
  | cons item items ih =>
      rw [List.zipIdx_cons]
      refine .cons ?_ (ih (start + 1))
      intro later member
      exact (List.mk_mem_zipIdx_iff_le_and_getElem?_sub.1 member).1

theorem pairwise_numbered_lines (text : List Char) :
    (numberedLines text).Pairwise fun earlier later => earlier.1 < later.1 := by
  rw [numberedLines, List.pairwise_filterMap]
  refine (pairwise_zip_idx _ 1).imp fun {earlier later} below => ?_
  -- A line that is kept stays with its number.
  have kept : ∀ (entry : List Char × Nat) row,
      (if entry.1.isEmpty then none else some (entry.2, entry.1)) = some row → row.1 = entry.2 := by
    intro entry row same
    split at same
    · cases same
    · exact (Prod.mk.inj (Option.some.inj same)).1.symm
  intro first firstKept second secondKept
  rwa [kept earlier first firstKept, kept later second secondKept]

/-- Decimal digits behind an optional plus sign, and the number below the limit
that they denote. -/
def NumberText (limit : Nat) (text : List Char) (value : Nat) : Prop :=
  ∃ digits, (text = digits ∨ text = '+' :: digits) ∧ digits ≠ [] ∧
    (∀ digit ∈ digits, digit.isDigit = true) ∧ Nat.ofDigitChars 10 digits 0 = value ∧ value < limit

theorem read_digits_eq_ok_iff {limit value result : Nat} {digits : List Char}
    (small : value < limit) :
    readDigits limit value digits = .ok result ↔
      (∀ digit ∈ digits, digit.isDigit = true) ∧ Nat.ofDigitChars 10 digits value = result ∧
        result < limit := by
  induction digits generalizing value with
  | nil =>
      rw [readDigits, Nat.ofDigitChars_nil]
      constructor
      · intro same
        obtain rfl := Except.ok.inj same
        exact ⟨List.forall_mem_nil _, rfl, small⟩
      · rintro ⟨-, rfl, -⟩
        rfl
  | cons digit digits ih =>
      rw [readDigits, Nat.ofDigitChars_cons, List.forall_mem_cons, and_assoc]
      simp only
      split
      next decimal =>
          split
          next fits => rw [ih fits, and_iff_right decimal]
          next large =>
              simp only [reduceCtorEq, false_iff]
              rintro ⟨-, -, rfl, bound⟩
              exact absurd (Nat.lt_of_le_of_lt (le_of_digit_chars _ _) bound) large
      next other =>
          simp only [reduceCtorEq, false_iff]
          exact fun accepted => other accepted.1

theorem read_number_eq_ok_iff {limit value : Nat} {text : List Char} (positive : 0 < limit) :
    readNumber limit text = .ok value ↔ NumberText limit text value := by
  unfold readNumber
  split
  next =>
      simp only [reduceCtorEq, false_iff]
      rintro ⟨digits, rfl | same, filled, -⟩
      · exact absurd rfl filled
      · cases same
  next =>
      simp only [reduceCtorEq, false_iff]
      rintro ⟨digits, rfl | same, filled, decimal, -⟩
      · exact absurd (decimal '+' List.mem_cons_self) (by decide)
      · exact absurd (List.cons.inj same).2.symm filled
  next digits only =>
      rw [read_digits_eq_ok_iff positive]
      constructor
      · rintro ⟨decimal, denoted, small⟩
        exact ⟨digits, .inr rfl, by rintro rfl; exact only rfl, decimal, denoted, small⟩
      · rintro ⟨others, rfl | same, -, decimal, denoted, small⟩
        · exact absurd (decimal '+' List.mem_cons_self) (by decide)
        · obtain rfl := (List.cons.inj same).2
          exact ⟨decimal, denoted, small⟩
  next filled _ unsigned =>
      rw [read_digits_eq_ok_iff positive]
      constructor
      · rintro ⟨decimal, denoted, small⟩
        exact ⟨text, .inl rfl, filled, decimal, denoted, small⟩
      · rintro ⟨digits, rfl | same, -, rest⟩
        · exact rest
        · exact (unsigned digits same).elim

end Text

namespace Table

open Text

/-- Four fields between colons: the number of a graph, a cost, a depth, and a
specification that is read as a circuit of the given width. -/
structure RowText (qubits : Nat) (row : List Char) (template : Template) : Prop where
  fields : ∃ id cost depth spec, Cut ':' row [id, cost, depth, spec] ∧
    NumberText (2 ^ 64) id template.graphId ∧ NumberText (2 ^ 32) cost template.cost ∧
    NumberText (2 ^ 32) depth template.depth ∧
    Circuit.parse qubits (.ofList spec) = .ok template.circuit
  graphId_lt : template.graphId < 2 ^ (qubits * (qubits - 1) / 2)

inductive RowFault (qubits : Nat) (row : List Char) : TableFault → Prop where
  | fieldCount {fields : List (List Char)} :
      Cut ':' row fields → fields.length ≠ 4 → RowFault qubits row (.fieldCount fields.length)
  | graphId {id cost depth spec : List Char} :
      Cut ':' row [id, cost, depth, spec] → (∀ value, ¬NumberText (2 ^ 64) id value) →
        RowFault qubits row (.graphId (.ofList id))
  | graphIdTooLarge {id cost depth spec : List Char} {number : Nat} :
      Cut ':' row [id, cost, depth, spec] → NumberText (2 ^ 64) id number →
        2 ^ (qubits * (qubits - 1) / 2) ≤ number →
        RowFault qubits row (.graphIdTooLarge number)
  | cost {id cost depth spec : List Char} {number : Nat} :
      Cut ':' row [id, cost, depth, spec] → NumberText (2 ^ 64) id number →
        number < 2 ^ (qubits * (qubits - 1) / 2) →
        (∀ value, ¬NumberText (2 ^ 32) cost value) → RowFault qubits row (.cost (.ofList cost))
  | depth {id cost depth spec : List Char} {number spent : Nat} :
      Cut ':' row [id, cost, depth, spec] → NumberText (2 ^ 64) id number →
        number < 2 ^ (qubits * (qubits - 1) / 2) → NumberText (2 ^ 32) cost spent →
        (∀ value, ¬NumberText (2 ^ 32) depth value) →
        RowFault qubits row (.depth (.ofList depth))
  | circuit {id cost depth spec : List Char} {number spent layers : Nat} {fault : CircuitFault} :
      Cut ':' row [id, cost, depth, spec] → NumberText (2 ^ 64) id number →
        number < 2 ^ (qubits * (qubits - 1) / 2) → NumberText (2 ^ 32) cost spent →
        NumberText (2 ^ 32) depth layers →
        Circuit.parse qubits (.ofList spec) = .error fault → RowFault qubits row (.circuit fault)

variable {qubits : Nat} {row : List Char}

theorem read_field_cases (limit : Nat) (positive : 0 < limit) (fault : String → TableFault)
    (text : List Char) :
    (∃ value, readField limit fault text = .ok value ∧ NumberText limit text value) ∨
      readField limit fault text = .error (fault (.ofList text)) ∧
        ∀ value, ¬NumberText limit text value := by
  rw [readField]
  cases taken : readNumber limit text with
  | ok value => exact .inl ⟨value, rfl, (read_number_eq_ok_iff positive).1 taken⟩
  | error reason =>
      refine .inr ⟨rfl, fun value denoted => ?_⟩
      rw [(read_number_eq_ok_iff positive).2 denoted] at taken
      cases taken

/-- A row is either well formed, and read as its template, or refused for the
first field that is wrong. -/
theorem read_row_cases (qubits : Nat) (row : List Char) :
    (∃ template, readRow qubits row = .ok template ∧ RowText qubits row template) ∨
      ∃ fault, readRow qubits row = .error fault ∧ RowFault qubits row fault := by
  unfold readRow
  split
  next id cost depth spec fields =>
      have cut := cut_iff.2 fields
      simp only [bind, Except.bind]
      rcases read_field_cases idBound (Nat.two_pow_pos 64) .graphId id with
        ⟨number, read, numbered⟩ | ⟨read, none⟩
      case inr =>
        rw [read]
        exact .inr ⟨_, rfl, .graphId cut none⟩
      rw [read]
      simp only
      split
      next large => exact .inr ⟨_, rfl, .graphIdTooLarge cut numbered large⟩
      next small =>
          have below := Nat.lt_of_not_le small
          rcases read_field_cases countBound (Nat.two_pow_pos 32) .cost cost with
            ⟨spent, read, counted⟩ | ⟨read, none⟩
          case inr =>
            rw [read]
            exact .inr ⟨_, rfl, .cost cut numbered below none⟩
          rw [read]
          simp only
          rcases read_field_cases countBound (Nat.two_pow_pos 32) .depth depth with
            ⟨layers, read, measured⟩ | ⟨read, none⟩
          case inr =>
            rw [read]
            exact .inr ⟨_, rfl, .depth cut numbered below counted none⟩
          rw [read]
          simp only
          have letters : Circuit.parse qubits (.ofList spec) = Circuit.read qubits spec := by
            rw [Circuit.parse, String.toList_ofList]
          cases taken : Circuit.read qubits spec with
          | ok circuit =>
              exact .inl ⟨_, rfl, ⟨id, cost, depth, spec, cut, numbered, counted, measured,
                letters.trans taken⟩, below⟩
          | error fault =>
              exact .inr ⟨_, rfl, .circuit cut numbered below counted measured
                (letters.trans taken)⟩
  next others =>
      refine .inr ⟨_, rfl, .fieldCount (cut_split ':' row) fun four => ?_⟩
      obtain ⟨id, cost, depth, spec, fields⟩ := List.length_eq_four.1 four
      exact others id cost depth spec fields

theorem read_field_of_number_text {limit value : Nat} {fault : String → TableFault}
    {text : List Char} (positive : 0 < limit) (denoted : NumberText limit text value) :
    readField limit fault text = .ok value := by
  rw [readField, (read_number_eq_ok_iff positive).2 denoted]

theorem read_row_eq_ok_iff {template : Template} :
    readRow qubits row = .ok template ↔ RowText qubits row template := by
  constructor
  · intro read
    rcases read_row_cases qubits row with ⟨found, own, formed⟩ | ⟨fault, own, -⟩
    · obtain rfl := Except.ok.inj (own.symm.trans read)
      exact formed
    · cases own.symm.trans read
  · rintro ⟨⟨id, cost, depth, spec, cut, numbered, counted, measured, taken⟩, below⟩
    rw [Circuit.parse, String.toList_ofList] at taken
    have numberRead : readField idBound .graphId id = .ok template.graphId :=
      read_field_of_number_text (Nat.two_pow_pos 64) numbered
    have costRead : readField countBound .cost cost = .ok template.cost :=
      read_field_of_number_text (Nat.two_pow_pos 32) counted
    have depthRead : readField countBound .depth depth = .ok template.depth :=
      read_field_of_number_text (Nat.two_pow_pos 32) measured
    unfold readRow
    rw [cut_iff.1 cut]
    simp only [bind, Except.bind, numberRead, costRead, depthRead, taken]
    rw [if_neg (Nat.not_le_of_lt below)]

theorem row_fault_of_read_row {fault : TableFault} (failed : readRow qubits row = .error fault) :
    RowFault qubits row fault := by
  rcases read_row_cases qubits row with ⟨template, own, -⟩ | ⟨found, own, wrong⟩
  · cases own.symm.trans failed
  · obtain rfl := Except.error.inj (own.symm.trans failed)
    exact wrong

structure Rows (text : List Char) (rows : List (Nat × List Char)) : Prop where
  ascending : rows.Pairwise fun earlier later => earlier.1 < later.1
  complete : ∀ number row, (number, row) ∈ rows ↔ IsRow text number row

theorem rows_numbered_lines (text : List Char) : Rows text (numberedLines text) :=
  ⟨pairwise_numbered_lines text, fun _ _ => mem_numbered_lines⟩

def IsTemplateRow (qubits : Nat) (row : List Char) : Prop :=
  ∃ template, RowText qubits row template

variable {lines : List (Nat × List Char)}

theorem read_rows_eq_ok_iff {name : String} {templates : List Template} :
    readRows name (readRow qubits) lines = .ok templates ↔
      List.Forall₂ (fun line template => RowText qubits line.2 template) lines templates := by
  rw [readRows]
  constructor
  · intro taken
    refine (forall₂_of_mapM taken).imp fun line template own => read_row_eq_ok_iff.1 ?_
    simp only at own
    split at own
    next row read => rwa [← Except.ok.inj own]
    next => cases own
  · intro formed
    refine mapM_of_forall₂ (formed.imp fun line template own => ?_)
    simp only [read_row_eq_ok_iff.2 own]

theorem exists_of_read_rows_error {name : String} {fault : Fault}
    (failed : readRows name (readRow qubits) lines = .error fault) :
    ∃ before number row after reason, lines = before ++ (number, row) :: after ∧
      (∀ earlier ∈ before, IsTemplateRow qubits earlier.2) ∧
      readRow qubits row = .error reason ∧ fault = .malformedTable name number reason := by
  obtain ⟨before, ⟨number, row⟩, after, cut, earlier, stops⟩ := exists_of_mapM_error failed
  simp only at stops
  split at stops
  next => cases stops
  next reason own =>
    refine ⟨before, number, row, after, reason, cut, ?_, own, (Except.error.inj stops).symm⟩
    intro line member
    obtain ⟨template, taken⟩ := earlier line member
    simp only at taken
    split at taken
    next found read => exact ⟨found, read_row_eq_ok_iff.1 read⟩
    next => cases taken

theorem not_is_template_row {reason : TableFault} (failed : readRow qubits row = .error reason) :
    ¬IsTemplateRow qubits row := by
  rintro ⟨template, formed⟩
  cases (read_row_eq_ok_iff.2 formed).symm.trans failed

theorem parse_eq {count : Nat} (counted : LocalClass.count qubits = .ok count) (name : String)
    (device : Device) (text : String) :
    parse name qubits device text =
      match readRows name (readRow qubits) (numberedLines text.toList) with
      | .error fault => .error fault
      | .ok templates =>
          if templates.length = count then .ok ⟨qubits, device, templates⟩
          else .error (.malformedTable name 0 (.rowCount count templates.length)) := by
  rw [parse, read, counted]
  change (readRows _ _ _ >>= _) = _
  cases readRows name (readRow qubits) (numberedLines text.toList) <;> rfl

section

variable {count : Nat} {name : String} {device : Device} {text : String}

theorem parse_eq_ok_iff (counted : LocalClass.count qubits = .ok count) {table : Table} :
    parse name qubits device text = .ok table ↔
      table.qubits = qubits ∧ table.device = device ∧ table.templates.length = count ∧
        List.Forall₂ (fun line template => RowText qubits line.2 template)
          (numberedLines text.toList) table.templates := by
  rw [parse_eq counted, ← @read_rows_eq_ok_iff qubits _ name]
  cases readRows name (readRow qubits) (numberedLines text.toList) with
  | error fault => simp
  | ok templates =>
      obtain ⟨size, board, listed⟩ := table
      simp only [Except.ok.injEq]
      constructor
      · intro built
        split at built
        next full =>
            obtain ⟨rfl, rfl, rfl⟩ := Table.mk.inj (Except.ok.inj built)
            exact ⟨rfl, rfl, full, rfl⟩
        next => cases built
      · rintro ⟨rfl, rfl, full, rfl⟩
        rw [if_pos full]

theorem parse_is_ok_iff (counted : LocalClass.count qubits = .ok count) :
    (∃ table, parse name qubits device text = .ok table) ↔
      (numberedLines text.toList).length = count ∧
        ∀ line ∈ numberedLines text.toList, IsTemplateRow qubits line.2 := by
  simp only [parse_eq_ok_iff counted]
  constructor
  · rintro ⟨table, -, -, rfl, paired⟩
    exact ⟨paired.length_eq, exists_forall₂_iff.1 ⟨_, paired⟩⟩
  · rintro ⟨rfl, formed⟩
    obtain ⟨templates, paired⟩ := exists_forall₂_iff.2 formed
    exact ⟨⟨qubits, device, templates⟩, rfl, rfl, paired.length_eq.symm, paired⟩

theorem get_of_parse (counted : LocalClass.count qubits = .ok count) {table : Table}
    (taken : parse name qubits device text = .ok table) {place number : Nat}
    (listed : (numberedLines text.toList)[place]? = some (number, row)) :
    ∃ template, table.get place = .ok template ∧ RowText qubits row template := by
  obtain ⟨-, -, -, paired⟩ := (parse_eq_ok_iff counted).1 taken
  obtain ⟨inside, found⟩ := List.getElem?_eq_some_iff.1 listed
  have listed := List.getElem?_eq_getElem (paired.length_eq ▸ inside)
  have own := paired.get inside (paired.length_eq ▸ inside)
  rw [List.get_eq_getElem, List.get_eq_getElem, found] at own
  exact ⟨_, by rw [get, listed], own⟩

theorem get_of_count_le (counted : LocalClass.count qubits = .ok count) {table : Table}
    (taken : parse name qubits device text = .ok table) {place : Nat} (outside : count ≤ place) :
    table.get place = .error (.invalidClassId qubits place count) := by
  obtain ⟨sized, -, full, -⟩ := (parse_eq_ok_iff counted).1 taken
  rw [get, List.getElem?_eq_none (by omega), sized, full]

/-- A text that is no table is refused for the first line that is no row, or for
the number of its rows. -/
theorem fault_of_parse (counted : LocalClass.count qubits = .ok count) {fault : Fault}
    (failed : parse name qubits device text = .error fault) :
    (∃ number row reason, IsRow text.toList number row ∧ ¬IsTemplateRow qubits row ∧
      (∀ earlier other, earlier < number → IsRow text.toList earlier other →
        IsTemplateRow qubits other) ∧
      RowFault qubits row reason ∧ fault = .malformedTable name number reason) ∨
    (∀ line ∈ numberedLines text.toList, IsTemplateRow qubits line.2) ∧
      (numberedLines text.toList).length ≠ count ∧
      fault = .malformedTable name 0 (.rowCount count (numberedLines text.toList).length) := by
  rw [parse_eq counted] at failed
  cases taken : readRows name (readRow qubits) (numberedLines text.toList) with
  | error found =>
      rw [taken] at failed
      obtain rfl := Except.error.inj failed
      obtain ⟨before, number, row, after, reason, cut, formed, own, rfl⟩ :=
        exists_of_read_rows_error taken
      have listed : (number, row) ∈ numberedLines text.toList := by simp [cut]
      refine .inl ⟨number, row, reason, mem_numbered_lines.1 listed, not_is_template_row own, ?_,
        row_fault_of_read_row own, rfl⟩
      -- The lines ascend, so a line with a lower number stands before this one.
      intro earlier other below line
      have ascending := pairwise_numbered_lines text.toList
      have member := mem_numbered_lines.2 line
      rw [cut] at ascending member
      obtain ⟨-, later, -⟩ := List.pairwise_append.1 ascending
      rcases List.mem_append.1 member with front | rear
      · exact formed _ front
      rcases List.mem_cons.1 rear with same | behind
      · exact absurd (Prod.mk.inj same).1 (Nat.ne_of_lt below)
      · exact absurd ((List.pairwise_cons.1 later).1 _ behind) (Nat.lt_asymm below)
  | ok templates =>
      rw [taken] at failed
      have paired := read_rows_eq_ok_iff.1 taken
      simp only at failed
      split at failed
      next => cases failed
      next other =>
          refine .inr ⟨exists_forall₂_iff.1 ⟨_, paired⟩, ?_, ?_⟩
          · rwa [paired.length_eq]
          · rw [paired.length_eq]
            exact (Except.error.inj failed).symm

end

theorem exists_count {qubits : Nat} (large : 2 ≤ qubits) (small : qubits ≤ 6) :
    ∃ count, LocalClass.count qubits = .ok count := by
  have supported : Device.checkQubits qubits = .ok () := if_pos ⟨large, small⟩
  rw [LocalClass.count, LocalClass.structures, supported]
  exact ⟨_, rfl⟩

/-- A text is read as a table exactly if it has a well-formed row for each class,
and the template of a class is then that of its row. Any other text is refused
for the first line that is no row, or for the number of its rows if all of them
are well formed. -/
theorem reading_exact {qubits : Nat} (large : 2 ≤ qubits) (small : qubits ≤ 6) (name : String)
    (device : Device) (text : String) :
    ∃ count rows, LocalClass.count qubits = .ok count ∧ Rows text.toList rows ∧
      ((∃ table, parse name qubits device text = .ok table) ↔
        rows.length = count ∧ ∀ row ∈ rows, IsTemplateRow qubits row.2) ∧
      (∀ table, parse name qubits device text = .ok table →
        table.qubits = qubits ∧ table.device = device ∧
          (∀ place number row, rows[place]? = some (number, row) →
            ∃ template, table.get place = .ok template ∧ RowText qubits row template) ∧
          ∀ place, count ≤ place →
            table.get place = .error (.invalidClassId qubits place count)) ∧
      ∀ fault, parse name qubits device text = .error fault →
        (∃ number row reason, IsRow text.toList number row ∧ ¬IsTemplateRow qubits row ∧
          (∀ earlier other, earlier < number → IsRow text.toList earlier other →
            IsTemplateRow qubits other) ∧
          RowFault qubits row reason ∧ fault = .malformedTable name number reason) ∨
        (∀ row ∈ rows, IsTemplateRow qubits row.2) ∧ rows.length ≠ count ∧
          fault = .malformedTable name 0 (.rowCount count rows.length) := by
  obtain ⟨count, counted⟩ := exists_count large small
  refine ⟨count, numberedLines text.toList, counted, rows_numbered_lines _, parse_is_ok_iff counted,
    ?_, fun _ => fault_of_parse counted⟩
  intro table taken
  obtain ⟨sized, drawn, -, -⟩ := (parse_eq_ok_iff counted).1 taken
  exact ⟨sized, drawn, fun _ _ _ => get_of_parse counted taken,
    fun _ => get_of_count_le counted taken⟩

/-- Two rows among blanks and with plus signs, a text with a wrong line, and a
text with a row too few. -/
theorem reading_exact_pair :
    (∃ table rows, parse "good" 2 .all "\n 0:+0:00:\r\n\t\n+1:1:1:h0 cz0,1 \n" = .ok table ∧
      Rows "\n 0:+0:00:\r\n\t\n+1:1:1:h0 cz0,1 \n".toList rows ∧ rows.length = 2 ∧
      ∀ place number row, rows[place]? = some (number, row) →
        ∃ template, table.get place = .ok template ∧ RowText 2 row template) ∧
      (∃ row, parse "bad" 2 .all "0:0:0:\n\n2:x:1:h5\n1:1:h0" =
          .error (.malformedTable "bad" 3 (.graphIdTooLarge 2)) ∧
        IsRow "0:0:0:\n\n2:x:1:h5\n1:1:h0".toList 3 row ∧ ¬IsTemplateRow 2 row ∧
        RowFault 2 row (.graphIdTooLarge 2)) ∧
      ∃ rows, parse "short" 2 .all "\n0:0:0:\n" =
          .error (.malformedTable "short" 0 (.rowCount 2 1)) ∧
        Rows "\n0:0:0:\n".toList rows ∧ rows.length = 1 ∧
        ∀ row ∈ rows, IsTemplateRow 2 row.2 := by
  have good : parse "good" 2 .all "\n 0:+0:00:\r\n\t\n+1:1:1:h0 cz0,1 \n" =
      .ok ⟨2, .all, [⟨0, 0, 0, ⟨2, []⟩⟩, ⟨1, 1, 1, ⟨2, [⟨.h, [0]⟩, ⟨.cz, [0, 1]⟩]⟩⟩]⟩ := by
    rfl
  have bad : parse "bad" 2 .all "0:0:0:\n\n2:x:1:h5\n1:1:h0" =
      .error (.malformedTable "bad" 3 (.graphIdTooLarge 2)) := by
    rfl
  have short : parse "short" 2 .all "\n0:0:0:\n" =
      .error (.malformedTable "short" 0 (.rowCount 2 1)) := by
    rfl
  refine ⟨?accepted, ?wrongLine, ?wrongCount⟩
  case accepted =>
    obtain ⟨count, rows, counted, listed, accepted, reads, -⟩ :=
      @reading_exact 2 (by decide) (by decide) "good" .all _
    obtain rfl : 2 = count := Except.ok.inj counted
    exact ⟨_, rows, good, listed, (accepted.1 ⟨_, good⟩).1, (reads _ good).2.2.1⟩
  case wrongLine =>
    obtain ⟨count, rows, -, -, -, -, refused⟩ :=
      @reading_exact 2 (by decide) (by decide) "bad" .all _
    rcases refused _ bad with ⟨number, row, reason, line, wrong, -, first, same⟩ | ⟨-, -, same⟩
    · obtain ⟨-, rfl, rfl⟩ := Fault.malformedTable.inj same
      exact ⟨row, bad, line, wrong, first⟩
    · exact absurd (Fault.malformedTable.inj same).2.1 (by decide)
  case wrongCount =>
    obtain ⟨count, rows, -, listed, -, -, refused⟩ :=
      @reading_exact 2 (by decide) (by decide) "short" .all _
    rcases refused _ short with ⟨number, row, reason, line, -, -, -, same⟩ | ⟨formed, -, same⟩
    · obtain ⟨lines, whole, -, positive, -⟩ := line
      exact absurd (Fault.malformedTable.inj same).2.1 (by omega)
    · obtain ⟨-, -, sized⟩ := Fault.malformedTable.inj same
      exact ⟨rows, short, listed, (TableFault.rowCount.inj sized).2.symm, formed⟩

end Table

end StabilizerPrep
