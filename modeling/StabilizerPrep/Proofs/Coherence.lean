import StabilizerPrep.Proofs.Classification
import StabilizerPrep.Proofs.Representatives
import StabilizerPrep.Proofs.VertexRoles

/-!
# Coherence of classes

A class is made from a structure and from roles, and it has a number and a
graph. The number belongs to the structure, and the graph state of the graph is
classified under that number. There is one exception. On a path of six the
numbering takes the two pairs at the ends as interchangeable, but the graph
joins the first of them to the first single vertex, so the pairs have to come in
the order of their first vertices.
-/

namespace StabilizerPrep

set_option autoImplicit false

namespace Structure

theorem mem_every_qubits (kind : Structure) : kind ∈ every kind.qubits := by
  cases kind with
  | two kind => cases kind <;> decide
  | three kind => cases kind <;> decide
  | four kind => cases kind <;> decide
  | five kind => cases kind <;> decide
  | six kind => cases kind <;> decide

theorem qubits_range (kind : Structure) : 2 ≤ kind.qubits ∧ kind.qubits ≤ 6 := by
  cases kind <;> simp [qubits]

theorem size_shape (kind : Structure) : kind.shape.size = kind.qubits := by
  cases kind with
  | two kind => cases kind <;> rfl
  | three kind => cases kind <;> rfl
  | four kind => cases kind <;> rfl
  | five kind => cases kind <;> rfl
  | six kind => cases kind <;> rfl

end Structure

namespace LocalClass

theorem exists_eq_take_while_append {kinds : List Structure} {kind : Structure}
    (listed : kind ∈ kinds) :
    ∃ later, kinds = kinds.takeWhile (· ≠ kind) ++ kind :: later := by
  induction kinds with
  | nil => cases listed
  | cons first kinds ih =>
      by_cases own : first = kind
      · subst own
        exact ⟨kinds, by simp⟩
      · obtain ⟨later, split⟩ := ih ((List.mem_cons.1 listed).resolve_left (Ne.symm own))
        refine ⟨later, ?_⟩
        rw [List.takeWhile_cons_of_pos (by simpa using own), List.cons_append, ← split]

theorem locate?_append (earlier kinds : List Structure) (id : Nat) :
    locate? (earlier ++ kinds) ((earlier.map Structure.classCount).sum + id) =
      locate? kinds id := by
  induction earlier with
  | nil => rw [List.nil_append, List.map_nil, List.sum_nil, Nat.zero_add]
  | cons first earlier ih =>
      rw [List.cons_append, locate?, List.map_cons, List.sum_cons, Nat.add_assoc,
        if_neg (Nat.not_lt.2 (Nat.le_add_right _ _)), Nat.add_sub_cancel_left, ih]

theorem locate?_first_id (kind : Structure) {number : Nat} (inside : number < kind.classCount) :
    locate? (Structure.every kind.qubits) (kind.firstId + number) = some (kind, number) := by
  obtain ⟨later, split⟩ := exists_eq_take_while_append kind.mem_every_qubits
  rw [Structure.firstId]
  generalize (Structure.every kind.qubits).takeWhile (· ≠ kind) = earlier at split ⊢
  rw [split, locate?_append, locate?, if_pos inside]

theorem first_id_add_le (kind : Structure) :
    kind.firstId + kind.classCount ≤
      ((Structure.every kind.qubits).map Structure.classCount).sum := by
  obtain ⟨later, split⟩ := exists_eq_take_while_append kind.mem_every_qubits
  rw [Structure.firstId]
  generalize (Structure.every kind.qubits).takeWhile (· ≠ kind) = earlier at split ⊢
  rw [split, List.map_append, List.sum_append, List.map_cons, List.sum_cons, ← Nat.add_assoc]
  exact Nat.le_add_right _ _

theorem make_eq_ok {kind : Structure} {roles : Roles} {found : LocalClass}
    (made : make kind roles = .ok found) :
    kind.shape.accepts roles = true ∧
      ∃ number, kind.shape.rank? roles = some number ∧
        found = ⟨kind, roles, kind.firstId + number⟩ := by
  rw [make, make?] at made
  split at made
  next accepted =>
      refine ⟨accepted, ?_⟩
      cases ranked : kind.shape.rank? roles with
      | none =>
          rw [ranked] at made
          cases made
      | some number =>
          rw [ranked] at made
          exact ⟨number, rfl, (Except.ok.inj made).symm⟩
  next => cases made

theorem count_qubits (kind : Structure) :
    count kind.qubits = .ok (((Structure.every kind.qubits).map Structure.classCount).sum) := by
  have supported : Device.checkQubits kind.qubits = .ok () := if_pos kind.qubits_range
  rw [count, structures, supported]
  rfl

end LocalClass

/-- The pairs at the ends of a path of six come in the order of their first
vertices. The groups of other structures may come in any order. -/
def Structure.Aligned (kind : Structure) (roles : Roles) : Prop :=
  kind = .six .line6 → roles.vertex 2 0 0 < roles.vertex 2 1 0

instance (kind : Structure) (roles : Roles) : Decidable (kind.Aligned roles) :=
  inferInstanceAs (Decidable (_ → _))

def Shape.isNumbered (shape : Shape) (number : Nat) : Bool :=
  match shape.roles number with
  | .ok roles => shape.accepts roles && shape.rank? roles == some number
  | .error _ => false

namespace Structure

def settlesOnNumber (kind : Structure) (groups : List (List Nat)) : Bool :=
  match kind.shape.rank? ⟨groups⟩ with
  | some number =>
      Nat.blt number kind.classCount &&
        Nat.beq (Board.settle kind.qubits (Board.ofRows (kind.graph ⟨groups⟩).neighbourhoods)).2
          (Nat.add kind.firstId number) == decide (kind.Aligned ⟨groups⟩)
  | none => false

def isCoherent (kind : Structure) : Bool :=
  (List.range kind.classCount).all kind.shape.isNumbered &&
    (Roles.fillings (List.range kind.qubits) (kind.shape.parts.insertionSort (· ≤ ·))).all
      kind.settlesOnNumber

theorem is_coherent_eq (kind : Structure) : kind.isCoherent = true := by
  have evaluated : (List.range' 2 5).all (fun size => (every size).all isCoherent) = true := by
    decide +kernel
  have range := kind.qubits_range
  have each := List.all_eq_true.1 evaluated kind.qubits (List.mem_range'_1.2 (by omega))
  exact List.all_eq_true.1 each kind kind.mem_every_qubits

end Structure

namespace LocalClass

theorem exists_of_id (kind : Structure) {number : Nat} (inside : number < kind.classCount) :
    ∃ roles, ofId kind.qubits (kind.firstId + number) =
      .ok ⟨kind, roles, kind.firstId + number⟩ := by
  have coherent := kind.is_coherent_eq
  rw [Structure.isCoherent, Bool.and_eq_true] at coherent
  have numbered := List.all_eq_true.1 coherent.1 number (List.mem_range.2 inside)
  rw [Shape.isNumbered] at numbered
  rw [ofId, count_qubits]
  simp only [bind, Except.bind, locate?_first_id kind inside]
  split at numbered
  next roles given =>
      rw [Bool.and_eq_true, beq_iff_eq] at numbered
      rw [given]
      refine ⟨roles, ?_⟩
      simp [make, make?, numbered.1, numbered.2]
  next => exact absurd numbered (by decide)

/-- The graph of accepted roles settles on their number just if they are
aligned. -/
theorem settle_eq_iff {kind : Structure} {roles : Roles} {groups : List (List Nat)} {number : Nat}
    (given : Roles.ofGroups? groups = some roles) (accepted : kind.shape.accepts roles = true)
    (ranked : kind.shape.rank? roles = some number) :
    number < kind.classCount ∧
      ((Board.settle kind.qubits (Board.ofRows (kind.graph roles).neighbourhoods)).2 =
        kind.firstId + number ↔ kind.Aligned roles) := by
  have coherent := kind.is_coherent_eq
  rw [Structure.isCoherent, Bool.and_eq_true] at coherent
  have filled := Shape.by_size_mem_fillings given accepted
  rw [kind.size_shape] at filled
  have settles : kind.settlesOnNumber roles.bySize.groups = true :=
    List.all_eq_true.1 coherent.2 _ filled
  -- nothing but the order of the groups differs from the roles themselves
  have same := roles.group_by_size
  have aligned : kind.Aligned roles.bySize ↔ kind.Aligned roles := by
    rw [Structure.Aligned, Roles.vertex_congr same, Structure.Aligned]
  rw [Structure.settlesOnNumber, show (⟨roles.bySize.groups⟩ : Roles) = roles.bySize from rfl,
    kind.shape.rank?_congr same, ranked] at settles
  dsimp only at settles
  rw [kind.graph_congr same, Bool.and_eq_true, beq_iff_eq] at settles
  obtain ⟨inside, settles⟩ := settles
  rw [Bool.eq_iff_iff, decide_eq_true_eq, aligned, Nat.beq_eq] at settles
  exact ⟨Nat.le_of_ble_eq_true inside, settles⟩

/-- The number of a class is below the count of classes, and it leads back to the
structure. The graph state of the graph is classified under that number exactly
when the roles are aligned. -/
theorem coherent_iff {kind : Structure} {groups : List (List Nat)} {roles : Roles}
    {found : LocalClass} (given : Roles.ofGroups? groups = some roles)
    (made : make kind roles = .ok found) :
    ∃ count again reached, LocalClass.count kind.qubits = .ok count ∧ found.id < count ∧
      ofId kind.qubits found.id = .ok again ∧ again.id = found.id ∧ again.kind = found.kind ∧
      classify (.ofGraph found.graph) = .ok reached ∧
      (reached.id = found.id ↔ kind.Aligned roles) := by
  obtain ⟨accepted, number, ranked, rfl⟩ := make_eq_ok made
  obtain ⟨inside, settles⟩ := settle_eq_iff given accepted ranked
  obtain ⟨others, numbered⟩ := exists_of_id kind inside
  obtain ⟨large, small⟩ := kind.qubits_range
  obtain ⟨size, simple⟩ := kind.simple_on_graph roles
  have qubits : (Stabilizer.ofGraph (kind.graph roles)).qubits = kind.qubits := by
    rw [Stabilizer.qubits_of_graph, size]
  have board := Board.graph_of_rows simple (by omega)
  rw [size] at board
  obtain ⟨listed, rootSimple, equivalent⟩ := Board.locally_equivalent_settle small
    (show (Board.graph kind.qubits (Board.ofRows (kind.graph roles).neighbourhoods)).Simple by
      rwa [board])
  rw [board] at equivalent
  rw [← qubits] at listed rootSimple equivalent
  obtain ⟨reached, classified, settled, -⟩ := (Stabilizer.valid_of_graph simple).classify_of_root
    (by omega) (by omega) listed rootSimple equivalent
  refine ⟨_, _, reached, count_qubits kind, ?_, numbered, rfl, rfl,
    Stabilizer.classify_of_some classified, ?_⟩
  · exact Nat.lt_of_lt_of_le (Nat.add_lt_add_left inside _) (first_id_add_le kind)
  · rw [settled, qubits, settles]

/-- The groups of a path of six in an order in which the pairs are aligned. -/
theorem coherent_iff_path :
    ∃ roles found reached, Roles.ofGroups? [[3, 2], [1], [5, 4], [0]] = some roles ∧
      make (.six .line6) roles = .ok found ∧ Structure.Aligned (.six .line6) roles ∧
      classify (.ofGraph found.graph) = .ok reached ∧ reached.id = found.id := by
  obtain ⟨_, _, reached, -, -, -, -, -, classified, coherent⟩ :=
    @coherent_iff (.six .line6) [[3, 2], [1], [5, 4], [0]] ⟨[[2, 3], [1], [4, 5], [0]]⟩
      ⟨.six .line6, ⟨[[2, 3], [1], [4, 5], [0]]⟩, 478⟩ rfl rfl
  have aligned : Structure.Aligned (.six .line6) ⟨[[2, 3], [1], [4, 5], [0]]⟩ := by decide
  exact ⟨_, _, reached, rfl, rfl, aligned, classified, coherent.2 aligned⟩

/-- A path of six whose pairs come the other way round: its graph is one of
another class. -/
theorem path_of_exchanged_pairs :
    ∃ roles found reached, Roles.ofGroups? [[0], [1], [4, 5], [2, 3]] = some roles ∧
      make (.six .line6) roles = .ok found ∧ found.id = 463 ∧
      classify (.ofGraph found.graph) = .ok reached ∧ reached.id = 478 := by
  refine ⟨⟨[[0], [1], [4, 5], [2, 3]]⟩, ⟨.six .line6, ⟨[[0], [1], [4, 5], [2, 3]]⟩, 463⟩,
    ⟨.six .line6, ⟨[[1], [0], [2, 3], [4, 5]]⟩, 478⟩, rfl, rfl, rfl, ?_, rfl⟩
  decide +kernel

end LocalClass

end StabilizerPrep
