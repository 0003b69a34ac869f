import StabilizerPrep.Proofs.KernelDimension
import StabilizerPrep.Proofs.LayerSolver

/-!
# The search for a layer

The search runs through all sums of a basis of the solutions of the linear
conditions, so it finds a layer whenever there is one, unless it gives up. It
gives up by the dimension of the space of solutions and by nothing else.
-/

namespace StabilizerPrep.Layer

set_option autoImplicit false

open Mask StabilizerPrep.Matrix

theorem search_some {qubits : Nat} {basis : List Nat} {vector : Nat} {layer : Layer}
    (found : search qubits basis vector = some layer) :
    ∃ selection, decode qubits (vector ^^^ combine basis selection) = some layer := by
  induction basis generalizing vector with
  | nil => exact ⟨0, by simpa [combine, search] using found⟩
  | cons first others ih =>
      rw [search] at found
      split at found
      next earlier early =>
          obtain ⟨selection, decoded⟩ := ih (early.trans found)
          exact ⟨2 * selection, by rwa [combine_cons_double]⟩
      next =>
          obtain ⟨selection, decoded⟩ := ih found
          exact ⟨2 * selection + 1, by rwa [combine_cons_double_add_one, ← Nat.xor_assoc]⟩

theorem search_none {qubits : Nat} {basis : List Nat} {vector : Nat}
    (absent : search qubits basis vector = none) (selection : Nat) :
    decode qubits (vector ^^^ combine basis selection) = none := by
  induction basis generalizing vector selection with
  | nil => simpa [combine, search] using absent
  | cons first others ih =>
      rw [search] at absent
      split at absent
      next => simp at absent
      next without =>
          rw [combine]
          cases selection.testBit 0
          · simpa using ih without (selection / 2)
          · simpa [Nat.xor_assoc] using ih absent (selection / 2)

variable {xs zs : Matrix} {graph : Graph}

theorem find_some {layer : Layer} (found : find xs zs graph = some layer) :
    layer.reaches xs zs graph = true := by
  unfold find at found
  split at found
  swap
  · simp at found
  next sized =>
      simp only at found
      split at found
      · simp at found
      obtain ⟨selection, decoded⟩ := search_some found
      rw [Nat.zero_xor] at decoded
      obtain ⟨qubits, coded⟩ := (decode_eq_some_iff _ _ _).1 decoded
      refine (reaches_iff layer).2 ⟨⟨qubits, sized.2.2, sized.1, sized.2.1⟩, ?_⟩
      refine (kills_conditions_iff coded).1 (kills_combine ?_ selection)
      intro vector member
      exact (mem_null_space _ member).2

/-- If no layer is found, then none passes the test or the kernel is too
large. -/
theorem find_none (absent : find xs zs graph = none)
    (searched : (conditions xs zs graph).nullSpace.length ≤ maxNullity) (layer : Layer) :
    layer.reaches xs zs graph = false := by
  rw [Bool.eq_false_iff]
  intro reaches
  obtain ⟨⟨qubits, size, heights, columns⟩, lands⟩ := (reaches_iff layer).1 reaches
  unfold find at absent
  rw [if_pos ⟨heights, columns, size⟩] at absent
  simp only [if_neg (Nat.not_lt.2 searched)] at absent
  have coded : ∀ qubit < xs.height, ∀ k < 4,
      layer.encode.testBit (4 * qubit + k) = (code (layer.clifford qubit)).testBit k := by
    intro qubit inside k below
    exact test_bit_encode (by rwa [qubits]) below
  have bound : layer.encode < 2 ^ (conditions xs zs graph).columns := by
    change layer.encode < 2 ^ (4 * xs.height)
    rw [← qubits]
    exact of_test_lt _ _
  obtain ⟨selection, -, sum⟩ :=
    exists_combine_null_space _ bound ((kills_conditions_iff coded).2 lands)
  have none := search_none absent selection
  rw [Nat.zero_xor, sum, (decode_eq_some_iff _ _ layer).2 ⟨qubits, coded⟩] at none
  exact absurd none (by simp)

theorem length_kernel_le (small : xs.height ≤ 8) :
    (conditions xs zs graph).nullSpace.length ≤ maxNullity := by
  have dimensions := (conditions xs zs graph).rank_add_length_null_space
  have columns : (conditions xs zs graph).columns = 4 * xs.height := rfl
  change _ ≤ 32
  omega

theorem exists_find {layer : Layer} (small : xs.height ≤ 8)
    (reaches : layer.reaches xs zs graph = true) :
    ∃ found, find xs zs graph = some found ∧ found.reaches xs zs graph = true := by
  cases result : find xs zs graph with
  | some found => exact ⟨found, rfl, find_some result⟩
  | none =>
      rw [find_none result (length_kernel_le small) layer] at reaches
      exact absurd reaches (by decide)

/-- The search gives up a kernel that is too large, and fails otherwise only if
there is nothing to be found. -/
theorem find_eq_none_iff :
    find xs zs graph = none ↔
      maxNullity < (conditions xs zs graph).nullSpace.length ∨
        ∀ layer : Layer, layer.reaches xs zs graph = false := by
  constructor
  · intro absent
    by_cases searched : (conditions xs zs graph).nullSpace.length ≤ maxNullity
    · exact .inr (find_none absent searched)
    · exact .inl (Nat.lt_of_not_le searched)
  · rintro (large | missing)
    · unfold find
      split
      · exact if_pos large
      · rfl
    · cases found : find xs zs graph with
      | none => rfl
      | some layer =>
          have reaches := find_some found
          rw [missing layer] at reaches
          cases reaches

/-- The search for a layer is sound and complete. For matrices and graphs of
all sizes, a layer that is found passes the test, and none is found exactly
when no layer passes it or the solutions of the linear conditions, which have
four unknowns for each qubit, are a space of more dimensions than are searched.
On at most eight qubits the second never happens. -/
theorem find_sound_complete (xs zs : Matrix) (graph : Graph) :
    (∀ layer, find xs zs graph = some layer → layer.reaches xs zs graph = true) ∧
    (conditions xs zs graph).columns = 4 * xs.height ∧
    (find xs zs graph = none ↔
      maxNullity < Module.finrank (ZMod 2) (conditions xs zs graph).kernel ∨
        ∀ layer : Layer, layer.reaches xs zs graph = false) ∧
    (xs.height ≤ 8 →
      (find xs zs graph = none ↔ ∀ layer : Layer, layer.reaches xs zs graph = false)) := by
  refine ⟨fun _ => find_some, rfl, ?_, ?_⟩
  · rw [Matrix.finrank_kernel]
    exact find_eq_none_iff
  · intro small
    rw [find_eq_none_iff]
    exact or_iff_right (Nat.not_lt.2 (length_kernel_le small))

/-- A Bell state reaches the graph with one edge, and a product state does
not. -/
theorem find_sound_complete_pair :
    let graph : Graph := ⟨[0b10, 0b01]⟩
    (⟨[.hs, .s]⟩ : Layer).reaches (.ofRows 2 [0b01, 0b01]) (.ofRows 2 [0b10, 0b10]) graph = true ∧
      ∀ layer : Layer, layer.reaches (.zero 2 2) (.identity 2) graph = false :=
  ⟨(find_sound_complete _ _ _).1 _ (by rfl),
    ((find_sound_complete _ _ _).2.2.2 (by decide)).1 (by rfl)⟩

end StabilizerPrep.Layer
