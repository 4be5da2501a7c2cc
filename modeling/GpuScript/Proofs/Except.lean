import Mathlib.Data.List.Forall2
import GpuScript.Fault

/-! When computations that may fail succeed one after the other, and item by item over a list. -/
namespace GpuScript

variable {Item Result Next : Type}

theorem map_id (outcome : Except Fault Result) : outcome.map (fun result => result) = outcome := by
  cases outcome <;> rfl

theorem bind_ok_iff {first : Except Fault Result} {next : Result → Except Fault Next}
    {result : Next} :
    (first >>= next) = .ok result ↔ ∃ value, first = .ok value ∧ next value = .ok result := by
  cases first with
  | ok value => simp [bind, Except.bind]
  | error fault => simp [bind, Except.bind]

theorem then_ok_iff {first next : Except Fault Unit} :
    (do first; next) = .ok ⟨⟩ ↔ first = .ok ⟨⟩ ∧ next = .ok ⟨⟩ := by
  rw [bind_ok_iff]
  constructor
  · rintro ⟨_, first, next⟩
    exact ⟨first, next⟩
  · rintro ⟨first, next⟩
    exact ⟨⟨⟩, first, next⟩

theorem forM_ok_iff {items : List Item} {check : Item → Except Fault Unit} :
    items.forM check = .ok ⟨⟩ ↔ ∀ item ∈ items, check item = .ok ⟨⟩ := by
  induction items with
  | nil => simp [pure, Except.pure]
  | cons item items ih =>
    rw [List.forall_mem_cons, ← ih]
    exact then_ok_iff

theorem mapM_ok_iff {operation : Item → Except Fault Result} {items : List Item} :
    (∃ results, items.mapM operation = .ok results) ↔
      ∀ item ∈ items, ∃ result, operation item = .ok result := by
  induction items with
  | nil => simp [pure, Except.pure]
  | cons item items ih =>
    rw [List.forall_mem_cons, ← ih, List.mapM_cons]
    cases operation item with
    | error fault => simp [bind, Except.bind]
    | ok result =>
      cases items.mapM operation <;> simp [bind, Except.bind, pure, Except.pure]

theorem mapM_eq_ok_iff {operation : Item → Except Fault Result} {items : List Item}
    {results : List Result} :
    items.mapM operation = .ok results ↔
      List.Forall₂ (fun item result => operation item = .ok result) items results := by
  induction items generalizing results with
  | nil => cases results <;> simp [pure, Except.pure]
  | cons item items ih =>
    rw [List.mapM_cons, bind_ok_iff]
    constructor
    · rintro ⟨first, ran, done⟩
      obtain ⟨later, rest, same⟩ := bind_ok_iff.mp done
      cases same
      exact .cons ran (ih.mp rest)
    · rintro (_ | ⟨ran, rest⟩)
      exact ⟨_, ran, bind_ok_iff.mpr ⟨_, ih.mpr rest, rfl⟩⟩

theorem mapM_eq_ok {operation : Item → Except Fault Result} {result : Item → Result}
    {items : List Item} (done : ∀ item ∈ items, operation item = .ok (result item)) :
    items.mapM operation = .ok (items.map result) :=
  mapM_eq_ok_iff.mpr (List.forall₂_map_right_iff.mpr (List.forall₂_same.mpr done))

theorem length_of_mapM_ok {operation : Item → Except Fault Result} {items : List Item}
    {results : List Result} (done : items.mapM operation = .ok results) :
    results.length = items.length :=
  (mapM_eq_ok_iff.mp done).length_eq.symm

end GpuScript
