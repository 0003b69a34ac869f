import Mathlib.Data.List.Forall2

/-!
# Outcomes of steps

A sequence of steps that may fail succeeds exactly when each of them does, and
fails at the first one that does.
-/

namespace StabilizerPrep

set_option autoImplicit false

theorem exists_of_bind_ok {ε α β : Type} {first : Except ε α} {next : α → Except ε β} {result : β}
    (done : first >>= next = .ok result) :
    ∃ value, first = .ok value ∧ next value = .ok result := by
  cases first with
  | error fault => cases done
  | ok value => exact ⟨value, rfl, done⟩

theorem bind_congr_of_ok {ε α β : Type} {outcome : Except ε α} {first second : α → Except ε β}
    (same : ∀ value, outcome = .ok value → first value = second value) :
    outcome >>= first = outcome >>= second := by
  cases outcome with
  | error fault => rfl
  | ok value => exact same value rfl

theorem exists_of_is_ok {ε α : Type} {outcome : Except ε α} (given : outcome.isOk = true) :
    ∃ value, outcome = .ok value := by
  cases outcome with
  | error fault => cases given
  | ok value => exact ⟨value, rfl⟩

theorem forall₂_of_mapM {ε α β : Type} {action : α → Except ε β} {items : List α} {results : List β}
    (done : items.mapM action = .ok results) :
    List.Forall₂ (fun item result => action item = .ok result) items results := by
  induction items generalizing results with
  | nil =>
      obtain rfl := Except.ok.inj done
      exact .nil
  | cons item items ih =>
      rw [List.mapM_cons] at done
      obtain ⟨first, own, rest⟩ := exists_of_bind_ok done
      obtain ⟨later, listed, built⟩ := exists_of_bind_ok rest
      obtain rfl := Except.ok.inj built
      exact .cons own (ih listed)

theorem mapM_of_forall₂ {ε α β : Type} {action : α → Except ε β} {items : List α} {results : List β}
    (each : List.Forall₂ (fun item result => action item = .ok result) items results) :
    items.mapM action = .ok results := by
  induction each with
  | nil => rfl
  | cons own _ ih =>
      rw [List.mapM_cons, own, ih]
      rfl

theorem exists_of_mapM_error {ε α β : Type} {action : α → Except ε β} {items : List α} {fault : ε}
    (failed : items.mapM action = .error fault) :
    ∃ before item after, items = before ++ item :: after ∧
      (∀ earlier ∈ before, ∃ result, action earlier = .ok result) ∧
      action item = .error fault := by
  induction items with
  | nil => cases failed
  | cons item items ih =>
      rw [List.mapM_cons] at failed
      cases own : action item with
      | error found =>
          rw [own] at failed
          obtain rfl := Except.error.inj failed
          exact ⟨[], item, items, rfl, nofun, own⟩
      | ok result =>
          rw [own] at failed
          cases rest : items.mapM action with
          | ok results =>
              rw [rest] at failed
              cases failed
          | error found =>
              rw [rest] at failed
              obtain rfl := Except.error.inj failed
              obtain ⟨before, first, after, rfl, earlier, stops⟩ := ih rest
              exact ⟨item :: before, first, after, rfl,
                List.forall_mem_cons.2 ⟨⟨result, own⟩, earlier⟩, stops⟩

theorem mapM_eq_some_iff {α β : Type} (items : List α) (read : α → Option β) (values : List β) :
    items.mapM read = some values ↔ items.map read = values.map some := by
  induction items generalizing values with
  | nil =>
      cases values <;> simp
  | cons item items ih =>
      rw [List.mapM_cons]
      cases values with
      | nil =>
          cases read item <;> cases items.mapM read <;> simp
      | cons value values =>
          cases first : read item with
          | none => simp [first]
          | some found =>
              cases rest : items.mapM read with
              | none =>
                  have impossible := ih values
                  rw [rest] at impossible
                  simp only [reduceCtorEq, false_iff] at impossible
                  simp [first, impossible]
              | some others =>
                  have same := ih values
                  rw [rest, Option.some.injEq] at same
                  simp [first, same]

theorem forall_of_forall₂ {α β : Type} {related : α → β → Prop} {holds : β → Prop}
    (imply : ∀ item result, related item result → holds result) {items : List α} {results : List β}
    (paired : List.Forall₂ related items results) : ∀ result ∈ results, holds result := by
  induction paired with
  | nil => simp
  | cons own _ ih => exact List.forall_mem_cons.2 ⟨imply _ _ own, ih⟩

end StabilizerPrep
