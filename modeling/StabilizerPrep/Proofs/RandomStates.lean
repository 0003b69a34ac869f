import StabilizerPrep.Proofs.Coherence
import StabilizerPrep.Proofs.GeneratorProducts
import StabilizerPrep.Proofs.GraphPreparation

/-!
# Random states of a class

A random stabilizer is the graph state of a class under a layer, with other signs
and other generators. We follow the choices step by step: the class is found by
its number and its graph state has that number, the layer and the signs lead to a
locally equivalent stabilizer, and products of generators keep the group. None of
the steps fails. What is drawn from a stream of words is always in range, so the
same holds of whatever is drawn.
-/

namespace StabilizerPrep

set_option autoImplicit false

theorem Board.exists_is_of {size number : Nat} (large : 2 ≤ size) (small : size ≤ 6)
    (inside : number < classes size) : ∃ kind, isOf kind size number = true := by
  have recognized := is_recognized_of_lt large small inside
  rw [isRecognized] at recognized
  split at recognized
  next found _ => exact ⟨found.kind, (Bool.and_eq_true_iff.1 recognized).2⟩
  next => exact absurd recognized (by decide)

/-- The pairs of the roles with a number come in the order of their first
vertices. -/
theorem Structure.aligned_of_roles {kind : Structure} {number : Nat} {roles : Roles}
    (given : kind.shape.roles number = .ok roles) : kind.Aligned roles := by
  rintro rfl
  have evaluated : ∀ number < 90, ∀ roles ∈ (Shape.orderedSinglesPairs.roles number).toOption,
      roles.vertex 2 0 0 < roles.vertex 2 1 0 := by
    decide +kernel
  obtain ⟨inside, -⟩ := Shape.of_groups?_of_roles given
  apply evaluated number inside
  have own : Shape.orderedSinglesPairs.roles number = .ok roles := given
  rw [own]
  rfl

namespace LocalClass

theorem make_of_id {kind : Structure} {number : Nat} (inside : number < kind.classCount)
    {found : LocalClass} (numbered : ofId kind.qubits (kind.firstId + number) = .ok found) :
    ∃ roles, kind.shape.roles number = .ok roles ∧ make kind roles = .ok found := by
  rw [ofId, count_qubits] at numbered
  simp only [bind, Except.bind, locate?_first_id kind inside] at numbered
  split at numbered
  next => cases numbered
  next roles given => exact ⟨roles, given, numbered⟩

theorem classify_graph_of_id {qubits classes id : Nat} (large : 2 ≤ qubits) (small : qubits ≤ 6)
    (counted : count qubits = .ok classes) (inside : id < classes) :
    ∃ localClass reached, ofId qubits id = .ok localClass ∧
      localClass.graph.SimpleOn qubits ∧
      classify (.ofGraph localClass.graph) = .ok reached ∧ reached.id = id := by
  obtain rfl := Except.ok.inj ((Board.count_eq_classes large small).symm.trans counted)
  obtain ⟨kind, own⟩ := Board.exists_is_of large small inside
  obtain ⟨rfl, behind, before⟩ := Board.is_of_iff.1 own
  obtain ⟨number, rfl⟩ := Nat.exists_eq_add_of_le behind
  have within : number < kind.classCount := by omega
  obtain ⟨others, numbered⟩ := exists_of_id kind within
  obtain ⟨roles, given, made⟩ := make_of_id within numbered
  obtain ⟨accepted, again, ranked, equal⟩ := make_eq_ok made
  obtain ⟨rfl, rfl⟩ : others = roles ∧ number = again := by
    injection equal with _ sameRoles sameId
    exact ⟨sameRoles, by omega⟩
  obtain ⟨-, groups, fit⟩ := Shape.of_groups?_of_roles given
  obtain ⟨-, settles⟩ := settle_eq_iff fit accepted ranked
  have drawn := kind.simple_on_graph others
  obtain ⟨reached, classified, settled⟩ := Stabilizer.classify_of_graph drawn.simple
    (by rwa [drawn.size_eq]) (by rwa [drawn.size_eq])
  refine ⟨_, reached, numbered, drawn, classified, ?_⟩
  rw [settled, drawn.size_eq, settles]
  exact Structure.aligned_of_roles given

end LocalClass

namespace Stabilizer

variable {first second stabilizer : Stabilizer} {layer : Layer}

theorem contains_iff_of_parts (xParts : first.xPart = second.xPart)
    (zParts : first.zPart = second.zPart) (x z : Nat) :
    first.Contains x z ↔ second.Contains x z := by
  unfold Contains
  simp only [← mul_vec_x_part, ← mul_vec_z_part, xParts, zParts]

/-- The gates of a layer and any signs lead to a locally equivalent stabilizer. -/
theorem LocallyEquivalent.of_followed_by {circuit : Circuit} (wellFormed : circuit.WellFormed)
    (same : layer.qubits = circuit.width) {signs : List Bool}
    (length : signs.length = circuit.width) :
    LocallyEquivalent circuit.prepared
      (ofParts (circuit.followedBy layer).prepared.xPart (circuit.followedBy layer).prepared.zPart
        signs) := by
  have width : (circuit.followedBy layer).prepared.qubits = signs.length := by
    rw [Circuit.qubits_prepared, length]
    rfl
  have qubits : layer.qubits = circuit.prepared.qubits := by
    rw [Circuit.qubits_prepared, same]
  have parts := Circuit.parts_followed_by wellFormed same
  rw [← parts_image qubits] at parts
  obtain ⟨xParts, zParts⟩ := Prod.mk.inj parts
  have xHeight : (circuit.followedBy layer).prepared.xPart.height = signs.length := by
    rw [height_x_part, width]
  have zHeight : (circuit.followedBy layer).prepared.zPart.height = signs.length := by
    rw [height_z_part, width]
  have sized : (circuit.prepared.image layer).qubits = signs.length := by
    rw [qubits_image, Circuit.qubits_prepared, length]
  have groups : ∀ x z, (circuit.prepared.image layer).Contains x z ↔ _ := contains_iff_of_parts
    (xParts.symm.trans (x_part_of_parts xHeight zHeight width).symm)
    (zParts.symm.trans (z_part_of_parts xHeight zHeight width).symm)
  exact LocallyEquivalent.trans ⟨layer, carries_image qubits⟩
    (.of_contains (by rw [sized, qubits_of_parts]) groups)

def dressed (graph : Graph) (layer : Layer) (signs : List Bool) : Stabilizer :=
  let prepared := (graph.preparation.followedBy layer).prepared
  ofParts prepared.xPart prepared.zPart signs

theorem locally_equivalent_dressed {graph : Graph} (simple : graph.Simple) (small : graph.size ≤ 6)
    (same : layer.qubits = graph.size) {signs : List Bool} (length : signs.length = graph.size) :
    LocallyEquivalent (ofGraph graph) (dressed graph layer signs) ∧
      (dressed graph layer signs).Valid := by
  obtain ⟨wellFormed, drawn⟩ := graph.draws_preparation simple small
  have graphState : LocallyEquivalent graph.preparation.prepared (ofGraph graph) := by
    apply LocallyEquivalent.of_contains _ drawn
    rw [Circuit.qubits_prepared, qubits_of_graph]
    rfl
  have turned : LocallyEquivalent graph.preparation.prepared (dressed graph layer signs) :=
    .of_followed_by wellFormed same length
  refine ⟨graphState.symm.trans turned, ?_⟩
  rw [← validate_eq_ok_iff, ← turned.validate_eq, validate_eq_ok_iff]
  exact Circuit.valid_prepared wellFormed

theorem Valid.exists_multiply (valid : stabilizer.Valid) {target source : Nat}
    (targetInside : target < stabilizer.qubits) (sourceInside : source < stabilizer.qubits)
    (distinct : target ≠ source) :
    ∃ changed, stabilizer.multiply target source = .ok changed ∧ changed.Valid ∧
      LocallyEquivalent stabilizer changed := by
  have fits : stabilizer.Multipliable target source := by
    refine ⟨targetInside, sourceInside, distinct, ?_⟩
    intro left leftFound right rightFound
    exact valid.commuting.commute left (List.mem_of_getElem? leftFound) right
      (List.mem_of_getElem? rightFound)
  obtain ⟨changed, done⟩ := exists_multiply_iff.2 fits
  obtain ⟨changedValid, groups⟩ := valid.of_multiply done
  have equivalent := (valid.equivalent_iff_signed_group changedValid).2 groups.symm
  have unsigned :=
    (valid.same_up_to_signs_iff_contains changedValid).1 (equivalent_iff.1 equivalent).1
  exact ⟨changed, done, changedValid, .of_contains unsigned.1 unsigned.2⟩

end Stabilizer

namespace Sampling

namespace Choices

/-- Products of generators never fail on a valid stabilizer, and they lead to a
locally equivalent one. -/
theorem exists_recombine {stabilizer : Stabilizer} (valid : stabilizer.Valid)
    {products : List (Nat × Nat)}
    (inside : ∀ pair ∈ products, pair.1 < stabilizer.qubits ∧ pair.2 < stabilizer.qubits) :
    ∃ sample, recombine stabilizer products = .ok sample ∧
      Stabilizer.LocallyEquivalent stabilizer sample := by
  induction products generalizing stabilizer with
  | nil => exact ⟨stabilizer, rfl, .refl stabilizer⟩
  | cons pair products ih =>
      obtain ⟨target, source⟩ := pair
      have bounds := inside _ List.mem_cons_self
      have later : ∀ pair ∈ products, pair.1 < stabilizer.qubits ∧ pair.2 < stabilizer.qubits :=
        fun pair member => inside pair (List.mem_cons_of_mem _ member)
      rw [recombine]
      by_cases equal : target = source
      · rw [if_pos equal]
        exact ih valid later
      · obtain ⟨changed, done, changedValid, equivalent⟩ :=
          valid.exists_multiply bounds.1 bounds.2 equal
        rw [equivalent.qubits_eq] at later
        obtain ⟨sample, recombined, rest⟩ := ih changedValid later
        rw [if_neg equal, done]
        exact ⟨sample, recombined, equivalent.trans rest⟩

/-- The choices that may be drawn for some number of qubits: a class among
`classes`, a Clifford and a sign for each qubit, and pairs of generators, as many
as there are ordered pairs. -/
structure InRange (qubits classes : Nat) (choices : Choices) : Prop where
  id_lt : choices.id < classes
  layer : choices.layer.qubits = qubits
  signs : choices.signs.length = qubits
  products : choices.products.length = qubits * qubits
  pairs_lt : ∀ pair ∈ choices.products, pair.1 < qubits ∧ pair.2 < qubits

/-- The stabilizer of the choices, with every check on the way: each instruction
is looked at, and the parts and signs are taken as digits. -/
def checked (qubits : Nat) (choices : Choices) : Except Fault Stabilizer := do
  let localClass ← LocalClass.ofId qubits choices.id
  let bare ← liftCircuit (Circuit.ofInstructions qubits localClass.graph.preparation.instructions)
  let gates ← liftCircuit (Circuit.ofInstructions choices.layer.qubits choices.layer.instructions)
  let circuit ← liftCircuit (bare.compose gates)
  let dressed ← Stabilizer.ofCircuit circuit
  let signed ← Stabilizer.ofMatrices dressed.xPart.digits dressed.zPart.digits
    (some (choices.signs.map Bool.toNat))
  recombine signed choices.products

variable {qubits classes : Nat} {choices : Choices} {localClass : LocalClass}

theorem InRange.of_circuit_eq (inRange : choices.InRange qubits classes) (large : 2 ≤ qubits)
    (small : qubits ≤ 6) (sized : localClass.graph.size = qubits) :
    localClass.graph.preparation.compose choices.layer.circuit =
        .ok (localClass.graph.preparation.followedBy choices.layer) ∧
      Stabilizer.ofCircuit (localClass.graph.preparation.followedBy choices.layer) =
        .ok (localClass.graph.preparation.followedBy choices.layer).prepared := by
  refine ⟨Circuit.compose_circuit (inRange.layer.trans sized.symm), Circuit.of_circuit_eq ?_⟩
  apply (Circuit.check_size_eq_ok_iff _).2
  change 0 < localClass.graph.size ∧ localClass.graph.size ≤ Pauli.maxQubits
  rw [sized, Pauli.maxQubits]
  omega

theorem InRange.stabilizer_eq (inRange : choices.InRange qubits classes) (large : 2 ≤ qubits)
    (small : qubits ≤ 6) (numbered : LocalClass.ofId qubits choices.id = .ok localClass)
    (sized : localClass.graph.size = qubits) :
    choices.stabilizer qubits =
      recombine (.dressed localClass.graph choices.layer choices.signs) choices.products := by
  obtain ⟨composed, simulated⟩ := inRange.of_circuit_eq large small sized
  rw [stabilizer, numbered]
  simp only [bind, Except.bind, composed, liftCircuit, simulated]
  rfl

theorem InRange.checked_eq (inRange : choices.InRange qubits classes) (large : 2 ≤ qubits)
    (small : qubits ≤ 6) (numbered : LocalClass.ofId qubits choices.id = .ok localClass)
    (drawn : localClass.graph.SimpleOn qubits) :
    choices.checked qubits = choices.stabilizer qubits := by
  obtain ⟨sized, simple⟩ := drawn
  obtain ⟨composed, simulated⟩ := inRange.of_circuit_eq large small sized
  have bare : Circuit.ofInstructions qubits localClass.graph.preparation.instructions =
      .ok localClass.graph.preparation := by
    rw [← sized]
    exact Circuit.of_instructions_of_well_formed
      (localClass.graph.draws_preparation simple (by rwa [sized])).1
  have gates : Circuit.ofInstructions choices.layer.qubits choices.layer.instructions =
      .ok choices.layer.circuit :=
    Circuit.of_instructions_of_well_formed choices.layer.well_formed_circuit
  have length : (localClass.graph.preparation.followedBy choices.layer).prepared.qubits =
      choices.signs.length := by
    rw [Circuit.qubits_prepared, inRange.signs, ← sized]
    rfl
  have taken := Stabilizer.of_matrices_digits (by rw [inRange.signs]; omega)
    (by rw [inRange.signs, Pauli.maxQubits]; omega)
    ((Stabilizer.height_x_part _).trans length) length
    ((Stabilizer.height_z_part _).trans length) length
  rw [inRange.stabilizer_eq large small numbered sized, checked, numbered]
  simp only [bind, Except.bind, bare, gates, composed, liftCircuit, simulated, taken]
  rfl

theorem InRange.exists_stabilizer (inRange : choices.InRange qubits classes) (large : 2 ≤ qubits)
    (small : qubits ≤ 6) (counted : LocalClass.count qubits = .ok classes) :
    ∃ sample found, choices.stabilizer qubits = .ok sample ∧ choices.checked qubits = .ok sample ∧
      sample.qubits = qubits ∧ sample.validate = .ok () ∧ classify sample = .ok found ∧
      found.id = choices.id := by
  obtain ⟨localClass, found, numbered, drawn, classified, named⟩ :=
    LocalClass.classify_graph_of_id large small counted inRange.id_lt
  have sized := drawn.size_eq
  obtain ⟨turned, valid⟩ := Stabilizer.locally_equivalent_dressed drawn.simple (by rwa [sized])
    (inRange.layer.trans sized.symm) (inRange.signs.trans sized.symm)
  have qubits_eq : (Stabilizer.dressed localClass.graph choices.layer choices.signs).qubits =
      qubits := by
    rw [← turned.qubits_eq, Stabilizer.qubits_of_graph, sized]
  have pairs := inRange.pairs_lt
  rw [← qubits_eq] at pairs
  obtain ⟨sample, recombined, rest⟩ := exists_recombine valid pairs
  have made : choices.stabilizer qubits = .ok sample := by
    rw [inRange.stabilizer_eq large small numbered sized, recombined]
  refine ⟨sample, found, made, ?_, ?_, ?_, ?_, named⟩
  · rw [inRange.checked_eq large small numbered drawn, made]
  · rw [← rest.qubits_eq, qubits_eq]
  · rw [← rest.validate_eq, Stabilizer.validate_eq_ok_iff]
    exact valid
  · rw [← (turned.trans rest).classify_eq, classified]

end Choices

def Always {α : Type} (draw : Draw α) (holds : α → Prop) : Prop :=
  ∀ words taken, holds ((draw.run words).run taken).1

section Always

variable {α β : Type}

theorem always_pure {holds : α → Prop} {value : α} (own : holds value) :
    Always (pure value) holds :=
  fun _ _ => own

theorem Always.bind {holds : α → Prop} {later : β → Prop} {draw : Draw α} {next : α → Draw β}
    (drawn : Always draw holds) (rest : ∀ value, holds value → Always (next value) later) :
    Always (draw >>= next) later :=
  fun words taken => rest _ (drawn words taken) words _

theorem always_word : Always word (· < wordCount) :=
  fun _ _ => Nat.mod_lt _ (Nat.two_pow_pos 64)

/-- The high half of the product of a word and a bound is below the bound. If no
word is accepted, so is zero. -/
theorem always_below {bound : Nat} (positive : 0 < bound) : Always (below bound) (· < bound) := by
  unfold below
  induction patience with
  | zero => exact always_pure positive
  | succ attempts ih =>
      unfold belowWithin
      refine always_word.bind ?_
      intro value small
      by_cases accepted : value * bound % wordCount ≤ zone bound
      · simp only [if_pos accepted]
        apply always_pure
        exact Nat.div_lt_of_lt_mul ((Nat.mul_lt_mul_right positive).2 small)
      · simp only [if_neg accepted]
        exact ih

theorem always_coin : Always coin fun _ => True :=
  fun _ _ => trivial

theorem always_repeated {holds : α → Prop} {draw : Draw α} (drawn : Always draw holds)
    (count : Nat) :
    Always (repeated draw count) fun values =>
      values.length = count ∧ ∀ value ∈ values, holds value := by
  induction count with
  | zero => exact always_pure ⟨rfl, by simp⟩
  | succ count ih =>
      unfold repeated
      refine drawn.bind ?_
      intro first own
      refine ih.bind ?_
      rintro rest ⟨length, others⟩
      exact always_pure ⟨by simp [length], List.forall_mem_cons.2 ⟨own, others⟩⟩

end Always

theorem Choices.always_draw {qubits classes : Nat} (some : 0 < qubits) (numbered : 0 < classes) :
    Always (Choices.draw qubits classes) (Choices.InRange qubits classes) := by
  unfold draw
  refine (always_below numbered).bind ?_
  intro id inside
  refine (always_repeated (always_below (by decide)) qubits).bind ?_
  rintro cliffords ⟨cliffordCount, -⟩
  refine (always_repeated always_coin qubits).bind ?_
  rintro signs ⟨signCount, -⟩
  have pair : Always (do return (← below qubits, ← below qubits)) fun pair : Nat × Nat =>
      pair.1 < qubits ∧ pair.2 < qubits := by
    refine (always_below some).bind ?_
    intro first firstInside
    refine (always_below some).bind ?_
    intro second secondInside
    exact always_pure ⟨firstInside, secondInside⟩
  refine (always_repeated pair (qubits * qubits)).bind ?_
  rintro products ⟨productCount, pairs⟩
  apply always_pure
  exact ⟨inside, by simp [Layer.qubits, cliffordCount], signCount, productCount, pairs⟩

/-- A random stabilizer is in the class that was drawn. On two to six qubits,
whatever is chosen in range, no step fails, the stabilizer is valid, and its class
has the chosen number. Whatever the words are, what is drawn from them is in
range, and the outcome is the stabilizer of these choices. -/
theorem stabilizer_in_drawn_class {qubits : Nat} (large : 2 ≤ qubits) (small : qubits ≤ 6) :
    ∃ classes, LocalClass.count qubits = .ok classes ∧
      (∀ choices : Choices, choices.InRange qubits classes →
        ∃ sample found, choices.stabilizer qubits = .ok sample ∧
          choices.checked qubits = .ok sample ∧ sample.qubits = qubits ∧
          sample.validate = .ok () ∧ classify sample = .ok found ∧ found.id = choices.id) ∧
      ∀ words : Words, ∃ choices taken sample,
        ((Choices.draw qubits classes).run words).run 0 = (choices, taken) ∧
          choices.InRange qubits classes ∧ choices.stabilizer qubits = .ok sample ∧
          stabilizer qubits words = .ok (sample, taken) := by
  have counted := Board.count_eq_classes large small
  have numbered : 0 < Board.classes qubits := by
    have evaluated : ∀ size < 7, 0 < Board.classes size := by decide
    exact evaluated qubits (by omega)
  refine ⟨Board.classes qubits, counted, ?_, ?_⟩
  · intro choices inRange
    exact inRange.exists_stabilizer large small counted
  · intro words
    have drawn := Choices.always_draw (Nat.lt_of_lt_of_le Nat.two_pos large) numbered words 0
    rcases run : ((Choices.draw qubits (Board.classes qubits)).run words).run 0 with
      ⟨choices, taken⟩
    rw [run] at drawn
    obtain ⟨sample, -, made, -⟩ := drawn.exists_stabilizer large small counted
    refine ⟨choices, taken, sample, rfl, drawn, made, ?_⟩
    rw [stabilizer, counted]
    simp only [bind, Except.bind, run, made]

/-- Three qubits in the last of their classes, with two signs and some products. -/
theorem stabilizer_in_drawn_class_triple :
    let choices : Choices := ⟨4, ⟨[.hs, .i, .sh]⟩, [true, false, true],
      [(0, 1), (2, 2), (1, 0), (2, 0), (0, 2), (1, 1), (1, 2), (0, 1), (2, 1)]⟩
    choices.InRange 3 5 ∧ ∃ sample found, choices.stabilizer 3 = .ok sample ∧
      sample.validate = .ok () ∧ classify sample = .ok found ∧ found.id = 4 := by
  intro choices
  have inRange : choices.InRange 3 5 := ⟨by decide, rfl, rfl, rfl, by decide⟩
  obtain ⟨classes, counted, chosen, -⟩ := @stabilizer_in_drawn_class 3 (by decide) (by decide)
  obtain rfl : 5 = classes := Except.ok.inj counted
  obtain ⟨sample, found, made, -, -, valid, classified, named⟩ := chosen choices inRange
  exact ⟨inRange, sample, found, made, valid, classified, named⟩

end Sampling

end StabilizerPrep
