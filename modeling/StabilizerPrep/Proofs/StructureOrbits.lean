import StabilizerPrep.Proofs.Coherence
import StabilizerPrep.Proofs.Relabelling

/-!
# Structures are classes up to the names of the qubits

On the roots, exchanging two vertices next to each other leads to a root of the
same structure, and unless a root is the first of its structure, one of these
exchanges leads to a smaller number. So every renaming keeps the structure, and
all roots of a structure are the first one under other names. Both carry over
to valid stabilizers, which are locally equivalent to roots.
-/

namespace StabilizerPrep.Board

set_option autoImplicit false

open Stabilizer

/-- The number of the root to which a root leads when a vertex and the next one
are exchanged. -/
def beside (size number vertex : Nat) : Nat :=
  (settle size (exchange vertex (Nat.add vertex 1) (root size number))).2

/-- Whether exchanging vertices next to each other keeps a root among the numbers
from `first` up to `past`, and leads to a smaller number unless the root is the
first one. -/
def isDescending (size first past number : Nat) : Bool :=
  (List.range (size - 1)).all (fun vertex =>
    Nat.ble first (beside size number vertex) && Nat.blt (beside size number vertex) past) &&
    (Nat.beq number first ||
      (List.range (size - 1)).any fun vertex => Nat.blt (beside size number vertex) number)

theorem eq_of_is_of {kind other : Structure} {size number : Nat}
    (own : isOf kind size number = true)
    (otherOwn : isOf other size number = true) : kind = other := by
  obtain ⟨qubits, first, past⟩ := is_of_iff.1 own
  obtain ⟨otherQubits, otherFirst, otherPast⟩ := is_of_iff.1 otherOwn
  have located := LocalClass.locate?_first_id kind
    (show number - kind.firstId < kind.classCount by omega)
  have otherLocated := LocalClass.locate?_first_id other
    (show number - other.firstId < other.classCount by omega)
  rw [qubits, Nat.add_sub_cancel' first] at located
  rw [otherQubits, Nat.add_sub_cancel' otherFirst, located] at otherLocated
  exact (Prod.mk.inj (Option.some.inj otherLocated)).1

theorem is_descending_of_is_of {kind : Structure} {size number : Nat}
    (own : isOf kind size number = true) :
    isDescending size kind.firstId (kind.firstId + kind.classCount) number = true := by
  have evaluated : (List.range' 2 5).all (fun size => (Structure.every size).all fun kind =>
      (List.range' kind.firstId kind.classCount).all
        (isDescending size kind.firstId (Nat.add kind.firstId kind.classCount))) = true := by
    decide +kernel
  obtain ⟨rfl, first, past⟩ := is_of_iff.1 own
  have range := kind.qubits_range
  have sized := List.all_eq_true.1 evaluated kind.qubits (List.mem_range'_1.2 (by omega))
  have each := List.all_eq_true.1 sized kind kind.mem_every_qubits
  exact List.all_eq_true.1 each number (List.mem_range'_1.2 ⟨first, past⟩)

structure Stands (size number : Nat) (kind : Structure) : Prop where
  inside : number < classes size
  simple : (graph size (root size number)).Simple
  own : isOf kind size number = true

def state (size number : Nat) : Stabilizer :=
  .ofGraph (graph size (root size number))

@[simp] theorem qubits_state (size number : Nat) : (state size number).qubits = size := by
  rw [state, qubits_of_graph, size_graph]

variable {size number : Nat} {kind : Structure}

theorem Stands.beside (stands : Stands size number kind) (small : size ≤ 6) {vertex : Nat}
    (below : vertex + 1 < size) :
    Stands size (Board.beside size number vertex) kind ∧
      RelabelsTo (Equiv.swap (⟨vertex, by omega⟩ : Fin size) ⟨vertex + 1, below⟩)
        (state size number) (state size (Board.beside size number vertex)) := by
  have apart : (⟨vertex, by omega⟩ : Fin size) ≠ ⟨vertex + 1, below⟩ := by
    rw [Ne, Fin.mk.injEq]
    omega
  have exchanged := relabels_to_exchange small stands.simple apart
  have simple := simple_exchange small (show vertex < size by omega) below stands.simple
  obtain ⟨inside, rootSimple, equivalent⟩ := locally_equivalent_settle small simple
  have settled := (relabels_to_one_iff (by rw [qubits_of_graph, size_graph])
    (qubits_state size _)).2 equivalent
  have both := exchanged.trans settled
  rw [one_mul] at both
  have descending := is_descending_of_is_of stands.own
  rw [isDescending, Bool.and_eq_true] at descending
  have kept := List.all_eq_true.1 descending.1 vertex (List.mem_range.2 (by omega))
  rw [Bool.and_eq_true] at kept
  have own : isOf kind size (Board.beside size number vertex) = true :=
    is_of_iff.2 ⟨(is_of_iff.1 stands.own).1, Nat.le_of_ble_eq_true kept.1,
      Nat.le_of_ble_eq_true kept.2⟩
  exact ⟨⟨inside, rootSimple, own⟩, both⟩

/-- Every root of a structure is the first one under other names. -/
theorem Stands.exists_first (stands : Stands size number kind) (small : size ≤ 6) :
    ∃ permutation : Equiv.Perm (Fin size),
      RelabelsTo permutation (state size number) (state size kind.firstId) := by
  induction number using Nat.strong_induction_on with
  | _ number ih =>
      have descending := is_descending_of_is_of stands.own
      rw [isDescending, Bool.and_eq_true, Bool.or_eq_true, List.any_eq_true] at descending
      rcases descending.2 with first | ⟨vertex, listed, smaller⟩
      · rw [← Nat.eq_of_beq_eq_true first]
        exact ⟨1, .refl (qubits_state size number)⟩
      · have below : vertex + 1 < size := by
          have inside := List.mem_range.1 listed
          omega
        obtain ⟨next, exchanged⟩ := stands.beside small below
        obtain ⟨permutation, relabels⟩ := ih _ (Nat.le_of_ble_eq_true smaller) next
        exact ⟨_, exchanged.trans relabels⟩

/-- Under every renaming a root leads to a root of the same structure. The
permutations with this property are closed under composition and hold the
exchanges of vertices next to each other. -/
theorem Stands.exists_image (stands : Stands size number kind) (large : 2 ≤ size)
    (small : size ≤ 6) (permutation : Equiv.Perm (Fin size)) :
    ∃ image, Stands size image kind ∧
      RelabelsTo permutation (state size number) (state size image) := by
  obtain ⟨fewer, rfl⟩ : ∃ fewer, size = fewer + 1 := ⟨size - 1, by omega⟩
  have generated : permutation ∈
      Submonoid.closure (Set.range fun i : Fin fewer => Equiv.swap i.castSucc i.succ) := by
    rw [Equiv.Perm.mclosure_swap_castSucc_succ]
    exact Submonoid.mem_top permutation
  induction generated using Submonoid.closure_induction generalizing number with
  | mem exchange listed =>
      obtain ⟨vertex, rfl⟩ := listed
      exact ⟨_, stands.beside small (Nat.succ_lt_succ vertex.isLt)⟩
  | one => exact ⟨number, stands, .refl (qubits_state _ number)⟩
  | mul later earlier _ _ laterIh earlierIh =>
      obtain ⟨between, betweenStands, one⟩ := earlierIh stands
      obtain ⟨image, imageStands, two⟩ := laterIh betweenStands
      exact ⟨image, imageStands, one.trans two⟩

end StabilizerPrep.Board

namespace StabilizerPrep.Stabilizer

set_option autoImplicit false

open Board

variable {stabilizer : Stabilizer} {size : Nat} {found : LocalClass}

/-- The structure of a stabilizer is that of every root to which it is locally
equivalent. -/
theorem Valid.is_of_root (valid : stabilizer.Valid) (qubits : stabilizer.qubits = size)
    (large : 2 ≤ size) (small : size ≤ 6) (classified : classify? stabilizer = some (.ok found))
    {number : Nat} (inside : number < classes size)
    (simple : (graph size (root size number)).Simple)
    (equivalent : LocallyEquivalent stabilizer (state size number)) :
    isOf found.kind size number = true := by
  subst qubits
  obtain ⟨expected, classifies, -, -, own⟩ :=
    valid.classify_of_root large small inside simple equivalent
  obtain rfl : found = expected :=
    Except.ok.inj (Option.some.inj (classified.symm.trans classifies))
  exact own

theorem Valid.exists_stands (valid : stabilizer.Valid) (qubits : stabilizer.qubits = size)
    (large : 2 ≤ size) (small : size ≤ 6) (classified : classify? stabilizer = some (.ok found)) :
    ∃ number, Stands size number found.kind ∧
      RelabelsTo (1 : Equiv.Perm (Fin size)) stabilizer (state size number) := by
  have rooted := valid.locally_equivalent_root (by omega)
  rw [qubits] at rooted
  obtain ⟨number, inside, simple, equivalent⟩ := rooted
  have own := valid.is_of_root qubits large small classified inside simple equivalent
  exact ⟨number, ⟨inside, simple, own⟩,
    (relabels_to_one_iff qubits (qubits_state _ number)).2 equivalent⟩

/-- Two valid stabilizers have the same structure exactly when some renaming
and some layer send the one group onto the other. -/
theorem Valid.kind_eq_iff {other : Stabilizer} {otherFound : LocalClass}
    (valid : stabilizer.Valid) (otherValid : other.Valid) (qubits : stabilizer.qubits = size)
    (otherQubits : other.qubits = size) (large : 2 ≤ size) (small : size ≤ 6)
    (classified : classify? stabilizer = some (.ok found))
    (otherClassified : classify? other = some (.ok otherFound)) :
    found.kind = otherFound.kind ↔
      ∃ permutation : Equiv.Perm (Fin size), RelabelsTo permutation stabilizer other := by
  obtain ⟨number, stands, rooted⟩ := valid.exists_stands qubits large small classified
  constructor
  · intro equal
    obtain ⟨otherNumber, otherStands, otherRooted⟩ :=
      otherValid.exists_stands otherQubits large small otherClassified
    obtain ⟨one, first⟩ := stands.exists_first small
    obtain ⟨two, otherFirst⟩ := otherStands.exists_first small
    rw [← equal] at otherFirst
    have back := (otherRooted.trans otherFirst).symm otherQubits
    exact ⟨_, (rooted.trans first).trans back⟩
  · rintro ⟨permutation, relabels⟩
    obtain ⟨image, imageStands, renamed⟩ := stands.exists_image large small permutation
    -- from the second stabilizer back to the first, to its root, and on by the same renaming
    have around := ((relabels.symm qubits).trans rooted).trans renamed
    rw [one_mul, mul_inv_cancel,
      relabels_to_one_iff otherQubits (qubits_state size image)] at around
    have own := otherValid.is_of_root otherQubits large small otherClassified imageStands.inside
      imageStands.simple around
    exact eq_of_is_of imageStands.own own

/-- Two valid stabilizers on two to six qubits have the same structure exactly
when a permutation of the qubits and a layer together carry the group of the
one onto that of the other, up to signs. -/
theorem kind_eq_iff_exists_relabelling {first second : Stabilizer} (large : 2 ≤ first.qubits)
    (small : first.qubits ≤ 6) (same : second.qubits = first.qubits)
    (valid : first.validate = .ok ()) (secondValid : second.validate = .ok ()) :
    ∃ found secondFound, classify first = .ok found ∧ classify second = .ok secondFound ∧
      (found.kind = secondFound.kind ↔
        ∃ (permutation : Equiv.Perm (Fin first.qubits)) (layer : Layer),
          layer.qubits = first.qubits ∧
            Set.image (layer.carry permutation) first.unsignedGroup = second.unsignedGroup) := by
  have firstValid := first.validate_eq_ok_iff.1 valid
  have otherValid := second.validate_eq_ok_iff.1 secondValid
  obtain ⟨found, classified, -⟩ := firstValid.exists_class large small
  obtain ⟨secondFound, secondClassified, -⟩ := otherValid.exists_class (by omega) (by omega)
  exact ⟨found, secondFound, classify_of_some classified, classify_of_some secondClassified,
    firstValid.kind_eq_iff otherValid rfl same large small classified secondClassified⟩

/-- Two paths on four qubits that run through them in different orders; one of
them is turned on a qubit and has other signs. A star is not a path. -/
theorem kind_eq_iff_exists_relabelling_path :
    let path := ofGraph ⟨[0b0010, 0b0101, 0b1010, 0b0100]⟩
    let turned := ofGenerators
      [⟨0, 0b1101, false⟩, ⟨0b0010, 0b1000, true⟩, ⟨0b0101, 0, false⟩, ⟨0b1001, 0b0010, true⟩]
    let star := ofGraph ⟨[0b1110, 0b0001, 0b0001, 0b0001]⟩
    path.validate = .ok () ∧ turned.validate = .ok () ∧ star.validate = .ok () ∧
      (∃ (permutation : Equiv.Perm (Fin path.qubits)) (layer : Layer),
        layer.qubits = path.qubits ∧
          Set.image (layer.carry permutation) path.unsignedGroup = turned.unsignedGroup) ∧
      ¬∃ (permutation : Equiv.Perm (Fin path.qubits)) (layer : Layer),
        layer.qubits = path.qubits ∧
          Set.image (layer.carry permutation) path.unsignedGroup = star.unsignedGroup := by
  intro path turned star
  have pathValid : path.validate = .ok () := by decide +kernel
  have turnedValid : turned.validate = .ok () := by decide +kernel
  have starValid : star.validate = .ok () := by decide +kernel
  have pathClass : classify path = .ok ⟨.four .line, ⟨[[0, 1], [2, 3]]⟩, 15⟩ := by decide +kernel
  have turnedClass : classify turned = .ok ⟨.four .line, ⟨[[0, 2], [1, 3]]⟩, 16⟩ := by
    decide +kernel
  have starClass : classify star = .ok ⟨.four .star, ⟨[[0, 1, 2, 3]]⟩, 14⟩ := by decide +kernel
  refine ⟨pathValid, turnedValid, starValid, ?_, ?_⟩
  · obtain ⟨found, other, classified, otherClassified, same⟩ :=
      @kind_eq_iff_exists_relabelling path turned (by decide) (by decide) rfl pathValid turnedValid
    obtain rfl := Except.ok.inj (pathClass.symm.trans classified)
    obtain rfl := Except.ok.inj (turnedClass.symm.trans otherClassified)
    exact same.1 rfl
  · obtain ⟨found, other, classified, otherClassified, same⟩ :=
      @kind_eq_iff_exists_relabelling path star (by decide) (by decide) rfl pathValid starValid
    obtain rfl := Except.ok.inj (pathClass.symm.trans classified)
    obtain rfl := Except.ok.inj (starClass.symm.trans otherClassified)
    intro carried
    exact absurd (same.2 carried) (by decide)

end StabilizerPrep.Stabilizer
