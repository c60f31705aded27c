/-
**Outcomes.**

A computation without a state has an outcome, a value or a fault.

* `exists_of_bind_eq_ok` and its kin: what an outcome that is no fault says of the one it was made of.
* `mapM_eq_ok_iff`: **made for all items of a list, a computation has values when it has one for each item**.
* `exists_mapM_eq_ok_iff`, `mem_iff_of_mapM`: when there are such values, and which ones they are.
* `mapM_eq_error_iff`: otherwise it fails with the fault of the first item that has none.
* `exists_forall₂_iff`, `forall_of_forall₂`, `forall₂_and_eq_iff`: what is related to the items of a list, one by one.
-/

import Mathlib.Data.List.Forall2

namespace HostWatch

/-! ### Values -/

variable {ε ε' α β : Type}

theorem exists_of_bind_eq_ok {outcome : Except ε α} {second : α → Except ε β} {value : β}
    (ends : outcome >>= second = .ok value) : ∃ middle, outcome = .ok middle ∧ second middle = .ok value := by
  cases outcome with
  | error fault => cases ends
  | ok middle => exact ⟨middle, rfl, ends⟩

theorem exists_of_map_eq_ok {outcome : Except ε α} {change : α → β} {value : β}
    (ends : outcome.map change = .ok value) : ∃ middle, outcome = .ok middle ∧ change middle = value := by
  cases outcome with
  | error fault => cases ends
  | ok middle => exact ⟨middle, rfl, Except.ok.inj ends⟩

theorem eq_error_of_map {outcome : Except ε α} {change : α → β} {fault : ε}
    (fails : outcome.map change = .error fault) : outcome = .error fault := by
  cases outcome with
  | error other => rw [Except.error.inj fails]
  | ok value => cases fails

/-- What fails after all fails in its first part, or in what follows it. -/
theorem bind_eq_error_iff {outcome : Except ε α} {second : α → Except ε β} {fault : ε} :
    outcome >>= second = .error fault ↔
      outcome = .error fault ∨ ∃ middle, outcome = .ok middle ∧ second middle = .error fault := by
  cases outcome with
  | error other => simp [bind, Except.bind]
  | ok middle => simp [bind, Except.bind]

theorem eq_ok_of_mapError {outcome : Except ε α} {change : ε → ε'} {value : α}
    (ends : outcome.mapError change = .ok value) : outcome = .ok value := by
  cases outcome with
  | error fault => cases ends
  | ok middle => rw [Except.ok.inj ends]

theorem eq_ok_of_toOption {outcome : Except ε α} {value : α} (ends : outcome.toOption = some value) :
    outcome = .ok value := by
  cases outcome with
  | error fault => cases ends
  | ok middle => rw [Option.some.inj ends]

/-! ### Lists -/

theorem mapM_eq_ok_iff {computation : α → Except ε β} {items : List α} {values : List β} :
    items.mapM computation = .ok values ↔ List.Forall₂ (fun item value => computation item = .ok value) items values := by
  induction items generalizing values with
  | nil =>
    rw [List.forall₂_nil_left_iff]
    exact ⟨fun ends => (Except.ok.inj ends).symm, fun none => none ▸ rfl⟩
  | cons item items ih =>
    rw [List.mapM_cons, List.forall₂_cons_left_iff]
    constructor
    · intro ends
      obtain ⟨value, head, ends⟩ := exists_of_bind_eq_ok ends
      obtain ⟨rest, tail, ends⟩ := exists_of_bind_eq_ok ends
      exact ⟨value, rest, head, ih.1 tail, (Except.ok.inj ends).symm⟩
    · rintro ⟨value, rest, head, tail, rfl⟩
      rw [head, ih.2 tail]
      rfl

/-- A change of the fault of each computation is one of the fault of all together. -/
theorem mapM_mapError (computation : α → Except ε β) (change : ε → ε') (items : List α) :
    items.mapM (fun item => (computation item).mapError change) = (items.mapM computation).mapError change := by
  induction items with
  | nil => rfl
  | cons item rest ih =>
    rw [List.mapM_cons, List.mapM_cons, ih]
    cases computation item with
    | error fault => rfl
    | ok value => cases rest.mapM computation <;> rfl

/-- **Made for all items of a list, a computation fails with the fault of the first item that has no value.** -/
theorem mapM_eq_error_iff {computation : α → Except ε β} {items : List α} {fault : ε} :
    items.mapM computation = .error fault ↔
      ∃ before item after, items = before ++ item :: after ∧
        (∀ earlier ∈ before, ∃ value, computation earlier = .ok value) ∧ computation item = .error fault := by
  induction items with
  | nil =>
    refine iff_of_false nofun ?_
    rintro ⟨before, item, after, split, -⟩
    cases before <;> cases split
  | cons first rest ih =>
    rw [List.mapM_cons, bind_eq_error_iff]
    constructor
    · rintro (fails | ⟨value, made, fails⟩)
      · exact ⟨[], first, rest, rfl, nofun, fails⟩
      · rcases bind_eq_error_iff.1 fails with fails | ⟨others, -, ends⟩
        · obtain ⟨before, item, after, rfl, earlier, fails⟩ := ih.1 fails
          exact ⟨first :: before, item, after, rfl, List.forall_mem_cons.2 ⟨⟨value, made⟩, earlier⟩, fails⟩
        · cases ends
    · rintro ⟨_ | ⟨item, before⟩, other, after, split, earlier, fails⟩
      · obtain ⟨rfl, rfl⟩ := List.cons.inj split
        exact .inl fails
      · obtain ⟨rfl, rfl⟩ := List.cons.inj split
        obtain ⟨⟨value, made⟩, earlier⟩ := List.forall_mem_cons.1 earlier
        refine .inr ⟨value, made, bind_eq_error_iff.2 (.inl (ih.2 ?_))⟩
        exact ⟨before, other, after, rfl, earlier, fails⟩

/-- Checks of the items of a list fail with the fault of one of them. -/
theorem exists_of_forM_eq_error {computation : α → Except ε Unit} {items : List α} {fault : ε}
    (fails : items.forM computation = .error fault) : ∃ item ∈ items, computation item = .error fault := by
  induction items with
  | nil => cases fails
  | cons item items ih =>
    rcases bind_eq_error_iff.1 fails with fails | ⟨-, -, fails⟩
    · exact ⟨item, List.mem_cons_self, fails⟩
    · obtain ⟨other, member, fails⟩ := ih fails
      exact ⟨other, List.mem_cons_of_mem item member, fails⟩

variable {related : α → β → Prop}

theorem exists_forall₂_iff {items : List α} :
    (∃ values, List.Forall₂ related items values) ↔ ∀ item ∈ items, ∃ value, related item value := by
  induction items with
  | nil => simp
  | cons item items ih =>
    rw [List.forall_mem_cons, ← ih]
    constructor
    · rintro ⟨values, _ | ⟨head, tail⟩⟩
      exact ⟨⟨_, head⟩, _, tail⟩
    · rintro ⟨⟨value, head⟩, values, tail⟩
      exact ⟨value :: values, .cons head tail⟩

theorem forall_of_forall₂ {good : β → Prop} {items : List α} {values : List β}
    (pairs : List.Forall₂ related items values) (holds : ∀ item ∈ items, ∀ value, related item value → good value) :
    ∀ value ∈ values, good value := by
  induction pairs with
  | nil => exact nofun
  | @cons item value items values head _ ih =>
    rw [List.forall_mem_cons]
    exact ⟨holds item List.mem_cons_self value head, ih fun other member => holds other (List.mem_cons_of_mem item member)⟩

/-- What is made of good items alone, one by one. -/
theorem forall₂_and_eq_iff {good : α → Prop} {made : α → β} {items : List α} {values : List β} :
    List.Forall₂ (fun item value => good item ∧ value = made item) items values ↔
      (∀ item ∈ items, good item) ∧ values = items.map made := by
  have written : List.Forall₂ (fun item value => value = made item) items values ↔ values = items.map made := by
    rw [eq_comm, ← List.forall₂_eq_eq_eq, List.forall₂_map_left_iff]
    simp only [eq_comm]
  rw [List.forall₂_and_left, written]

/-- Made for all items of a list, a computation has values when it has one for each item. -/
theorem exists_mapM_eq_ok_iff {computation : α → Except ε β} {items : List α} :
    (∃ values, items.mapM computation = .ok values) ↔ ∀ item ∈ items, ∃ value, computation item = .ok value := by
  rw [← exists_forall₂_iff]
  exact exists_congr fun _ => mapM_eq_ok_iff

/-- The values are those that the computation has for the items. -/
theorem mem_iff_of_mapM {computation : α → Except ε β} {items : List α} {values : List β}
    (made : items.mapM computation = .ok values) (value : β) :
    value ∈ values ↔ ∃ item ∈ items, computation item = .ok value := by
  have pairs := mapM_eq_ok_iff.1 made
  clear made
  induction pairs with
  | nil => simp
  | @cons item first items values made _ ih =>
    have same : value = first ↔ computation item = .ok value := by
      rw [made, Except.ok.injEq, eq_comm]
    rw [List.mem_cons, List.exists_mem_cons_iff, same]
    exact or_congr_right ih

end HostWatch
