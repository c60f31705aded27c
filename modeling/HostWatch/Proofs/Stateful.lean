/-
**Computations that may fail half-way.**

A computation with a state may fail, and what it did to the state before that stays. Run from a state it
gives an outcome and the state afterwards.

* `Stateful.run_bind`: the second of two computations runs only when the first one ends well.
* `Stateful.run_tryCatch`: a failure is handled in the state in which it came.
* `Stateful.visits`, `Stateful.fst_run_mapM`: **computations for the items of a list**, each from the state that the ones
  before it leave.
* `Stateful.Keeps`: a computation that leaves a part of the state alone, also when it fails half-way.
* `Stateful.Yields`: a computation whose values have a property.
* `Stateful.EndsAs`: a computation whose values a part of the state decides, which it leaves alone.
* `Probe.run_outcome`: asking for the outcome of a probe cannot fail, and does what the probe does.
-/

import HostWatch.Host.Machine
import HostWatch.Proofs.Outcomes

namespace HostWatch

/-! ### Runs -/

/-- A computation with a state, which may fail; what it did to the state before that stays. -/
abbrev Stateful (σ α : Type) := ExceptT Failure (StateM σ) α

namespace Stateful

variable {σ α β γ : Type}

/-- The second of two computations runs only when the first one ends well. -/
theorem run_bind (first : Stateful σ α) (second : α → Stateful σ β) (state : σ) :
    (first >>= second).run.run state =
      match first.run.run state with
      | (.ok value, after) => (second value).run.run after
      | (.error failure, after) => (.error failure, after) := by
  rw [ExceptT.run_bind, StateT.run_bind]
  generalize first.run.run state = result
  obtain ⟨outcome, after⟩ := result
  cases outcome <;> rfl

/-- A computation that ends well hands its value over. -/
theorem run_bind_of_ok {first : Stateful σ α} {state after : σ} {value : α}
    (ends : first.run.run state = (.ok value, after)) (second : α → Stateful σ β) :
    (first >>= second).run.run state = (second value).run.run after := by
  rw [run_bind, ends]

/-- A failure is handled in the state in which it came. -/
theorem run_tryCatch (body : Stateful σ α) (handler : Failure → Stateful σ α) (state : σ) :
    (tryCatch body handler : Stateful σ α).run.run state =
      match body.run.run state with
      | (.ok value, after) => (.ok value, after)
      | (.error failure, after) => (handler failure).run.run after := by
  rw [ExceptT.run_tryCatch, StateT.run_bind]
  generalize body.run.run state = result
  obtain ⟨outcome, after⟩ := result
  cases outcome <;> rfl

/-- When two computations end well, the first one does, and the second one behind it. -/
theorem exists_of_run_bind {first : Stateful σ α} {second : α → Stateful σ β} {state : σ} {value : β}
    (ends : ((first >>= second).run.run state).1 = .ok value) :
    ∃ middle, (first.run.run state).1 = .ok middle ∧
      ((second middle).run.run (first.run.run state).2).1 = .ok value := by
  rw [run_bind] at ends
  generalize first.run.run state = result at ends ⊢
  obtain ⟨outcome, after⟩ := result
  cases outcome with
  | error failure => cases ends
  | ok middle => exact ⟨middle, rfl, ends⟩

/-! ### Lists -/

/-- The items of a list, each with the state that the ones before it left. -/
def visits (next : α → σ → σ) (state : σ) : List α → List (α × σ)
  | [] => []
  | item :: rest => (item, state) :: visits next (next item state) rest

theorem map_fst_visits (next : α → σ → σ) (state : σ) (items : List α) :
    (visits next state items).map Prod.fst = items := by
  induction items generalizing state with
  | nil => rfl
  | cons item rest ih => exact congrArg (item :: ·) (ih _)

/-- **Computations for the items of a list** end one by one, each from the state that the ones before it leave. -/
theorem fst_run_mapM {computation : α → Stateful σ β} {outcome : α × σ → Except Failure β} {next : α → σ → σ}
    (ends : ∀ item state, ∃ after, (computation item).run.run state = (outcome (item, state), after) ∧
      ∀ value, outcome (item, state) = .ok value → after = next item state)
    (items : List α) (state : σ) :
    ((items.mapM computation).run.run state).1 = (visits next state items).mapM outcome := by
  induction items generalizing state with
  | nil => rfl
  | cons item rest ih =>
    obtain ⟨after, first, leaves⟩ := ends item state
    rw [List.mapM_cons, run_bind, first, visits, List.mapM_cons]
    cases made : outcome (item, state) with
    | error failure => rfl
    | ok value =>
      show ((rest.mapM computation >>= _).run.run after).1 = _
      rw [leaves value made, run_bind, ← ih]
      rcases (rest.mapM computation).run.run _ with ⟨failure | values, last⟩ <;> rfl

/-! ### Parts of the state -/

/-- A computation that leaves a part of the state alone, whether or not it fails. -/
def Keeps (part : σ → γ) (computation : Stateful σ α) : Prop :=
  ∀ state, part (computation.run.run state).2 = part state

section Keeps

variable {part : σ → γ}

theorem Keeps.bind {first : Stateful σ α} {second : α → Stateful σ β} (kept : Keeps part first)
    (keptThen : ∀ value, Keeps part (second value)) : Keeps part (first >>= second) := by
  intro state
  have before := kept state
  rw [run_bind]
  generalize first.run.run state = result at before
  obtain ⟨outcome, after⟩ := result
  cases outcome with
  | error failure => exact before
  | ok value => exact (keptThen value after).trans before

theorem keeps_pure (value : α) : Keeps part (pure value) := fun _ => rfl

theorem keeps_throw (failure : Failure) : Keeps part (throw failure : Stateful σ α) := fun _ => rfl

theorem keeps_get : Keeps part get := fun _ => rfl

theorem keeps_ofExcept (outcome : Except Failure α) : Keeps part (ofExcept outcome) := by
  intro state
  cases outcome <;> rfl

theorem keeps_modify {change : σ → σ} (kept : ∀ state, part (change state) = part state) :
    Keeps part (modify change) := kept

end Keeps

/-! ### Values -/

/-- A computation whose values, when it ends well, have a property. -/
def Yields (good : α → Prop) (computation : Stateful σ α) : Prop :=
  ∀ state value, (computation.run.run state).1 = .ok value → good value

section Yields

variable {good : α → Prop}

theorem Yields.bind {holds : β → Prop} {first : Stateful σ β} {second : β → Stateful σ α}
    (yields : Yields holds first) (yieldsThen : ∀ middle, holds middle → Yields good (second middle)) :
    Yields good (first >>= second) := by
  intro state value ends
  obtain ⟨middle, endsFirst, endsThen⟩ := exists_of_run_bind ends
  exact yieldsThen middle (yields state middle endsFirst) _ value endsThen

theorem yields_bind (first : Stateful σ β) {second : β → Stateful σ α}
    (yields : ∀ middle, Yields good (second middle)) : Yields good (first >>= second) := by
  intro state value ends
  obtain ⟨middle, -, endsThen⟩ := exists_of_run_bind ends
  exact yields middle _ value endsThen

theorem yields_pure {value : α} (holds : good value) : Yields good (pure value : Stateful σ α) := by
  intro state other ends
  obtain rfl := Except.ok.inj ends
  exact holds

theorem yields_throw (failure : Failure) : Yields good (throw failure : Stateful σ α) := by
  intro state value ends
  cases ends

end Yields

/-! ### Values that a part of the state decides -/

/-- A computation leaves a part of the state alone, and this part decides with which values it can end. -/
structure EndsAs (part : σ → γ) (computation : Stateful σ α) (ends : γ → α → Prop) : Prop where
  keeps : Keeps part computation
  ends_iff : ∀ state value, (computation.run.run state).1 = .ok value ↔ ends (part state) value

section EndsAs

variable {part : σ → γ}

theorem EndsAs.bind {first : Stateful σ α} {second : α → Stateful σ β} {ends : γ → α → Prop}
    {endsThen : α → γ → β → Prop} (decided : EndsAs part first ends)
    (decidedThen : ∀ value, EndsAs part (second value) (endsThen value)) :
    EndsAs part (first >>= second) fun seen value => ∃ middle, ends seen middle ∧ endsThen middle seen value := by
  refine ⟨decided.keeps.bind fun value => (decidedThen value).keeps, fun state value => ?_⟩
  have kept := decided.keeps state
  have firstEnds := decided.ends_iff state
  rw [run_bind]
  generalize first.run.run state = result at kept firstEnds
  obtain ⟨outcome, after⟩ := result
  constructor
  · intro ended
    cases outcome with
    | error failure => cases ended
    | ok middle =>
      have rest := ((decidedThen middle).ends_iff after value).1 ended
      rw [show part after = part state from kept] at rest
      exact ⟨middle, (firstEnds middle).1 rfl, rest⟩
  · rintro ⟨middle, ended, rest⟩
    obtain rfl : outcome = .ok middle := (firstEnds middle).2 ended
    rw [← show part after = part state from kept] at rest
    exact ((decidedThen middle).ends_iff after value).2 rest

theorem endsAs_pure (value : α) :
    EndsAs part (pure value : Stateful σ α) fun _ other => other = value :=
  ⟨keeps_pure value, fun _ _ => ⟨fun ended => (Except.ok.inj ended).symm, fun same => same ▸ rfl⟩⟩

/-- The same values can be told in another way. -/
theorem EndsAs.congr {computation : Stateful σ α} {ends told : γ → α → Prop}
    (decided : EndsAs part computation ends) (same : ∀ seen value, ends seen value ↔ told seen value) :
    EndsAs part computation told :=
  ⟨decided.keeps, fun state value => (decided.ends_iff state value).trans (same (part state) value)⟩

/-- Made for all items of a list, a computation ends with a value for each of them. -/
theorem endsAs_mapM {ends : β → γ → α → Prop} {computation : β → Stateful σ α}
    (decided : ∀ item, EndsAs part (computation item) (ends item)) (items : List β) :
    EndsAs part (items.mapM computation) fun seen values =>
      List.Forall₂ (fun item value => ends item seen value) items values := by
  induction items with
  | nil =>
    refine ⟨keeps_pure [], fun state values => ?_⟩
    rw [List.forall₂_nil_left_iff]
    exact ⟨fun ended => (Except.ok.inj ended).symm, fun none => none ▸ rfl⟩
  | cons item items ih =>
    rw [List.mapM_cons]
    have all := (decided item).bind fun value => ih.bind fun rest => endsAs_pure (value :: rest)
    refine all.congr fun seen values => ?_
    constructor
    · rintro ⟨value, head, rest, tail, rfl⟩
      exact .cons head tail
    · rintro (_ | ⟨head, tail⟩)
      exact ⟨_, head, _, tail, rfl⟩

end EndsAs

end Stateful

namespace Probe

open Stateful

variable {α : Type}

theorem run_ofExcept (outcome : Except Failure α) (machine : Machine) :
    (ofExcept outcome).run.run machine = (outcome, machine) := by
  cases outcome <;> rfl

theorem keeps_ofExcept {γ : Type} {part : Machine → γ} (outcome : Except Failure α) :
    Keeps part (ofExcept outcome) := by
  intro machine
  rw [run_ofExcept]

theorem yields_ofExcept {good : α → Prop} {outcome : Except Failure α}
    (holds : ∀ value, outcome = .ok value → good value) : Yields good (ofExcept outcome) := by
  intro machine value ends
  rw [run_ofExcept] at ends
  exact holds value ends

theorem endsAs_ofExcept {γ : Type} {part : Machine → γ} (outcome : Except Failure α) :
    EndsAs part (ofExcept outcome) fun _ value => outcome = .ok value :=
  ⟨keeps_ofExcept outcome, fun machine _ => by rw [run_ofExcept]⟩

/-- Finding a fact out changes nothing but what is known. -/
theorem keeps_once {γ : Type} {part : Machine → γ} (known : Machine → Option α)
    {keep : α → Machine → Machine} {find : Probe α}
    (free : ∀ fact machine, part (keep fact machine) = part machine) (kept : Keeps part find) :
    Keeps part (once known keep find) := by
  unfold once
  refine keeps_get.bind fun machine => ?_
  cases known machine with
  | some fact => exact keeps_pure fact
  | none => exact kept.bind fun fact => (keeps_modify (free fact)).bind fun _ => keeps_pure fact

/-- A fact that is known is not looked for. -/
theorem run_once_of_known {known : Machine → Option α} (keep : α → Machine → Machine) (find : Probe α)
    {machine : Machine} {fact : α} (found : known machine = some fact) :
    (once known keep find).run.run machine = (.ok fact, machine) := by
  have seen : (get : Probe Machine).run.run machine = (.ok machine, machine) := rfl
  unfold once
  rw [run_bind_of_ok seen, found]
  rfl

/-- A fact that is not known is found out, and then known. -/
theorem run_once_of_unknown {known : Machine → Option α} (keep : α → Machine → Machine) {find : Probe α}
    {machine after : Machine} {fact : α} (unknown : known machine = none)
    (found : find.run.run machine = (.ok fact, after)) :
    (once known keep find).run.run machine = (.ok fact, keep fact after) := by
  have seen : (get : Probe Machine).run.run machine = (.ok machine, machine) := rfl
  unfold once
  rw [run_bind_of_ok seen, unknown]
  exact run_bind_of_ok found _

/-- Asking for the outcome of a probe cannot fail, and does to the machine what the probe does. -/
theorem run_outcome (probe : Probe α) (machine : Machine) :
    (outcome probe).run.run machine = (.ok (probe.run.run machine).1, (probe.run.run machine).2) := by
  unfold outcome
  rw [run_tryCatch, run_bind]
  obtain ⟨value | failure, after⟩ := probe.run.run machine <;> rfl

end Probe

end HostWatch
