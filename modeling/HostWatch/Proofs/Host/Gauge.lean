/-
**Readings of a gauge.**

A gauge is read again and again, and between the readings its world goes on. A capture may fail, or not be
available, and so may the computation of a usage from two captures.

* `Occasion`: what a reading meets, that is how its capture ends and how each computation behind it would.
* `CpuGauge.run_read`: **one reading**, which cannot fail, in terms of what it meets.
* `Occasion.shown`: what a reading should show, by the outcomes of all captures before it. The latest capture
  that did not fail counts; whether the usage could be computed from it does not matter.
* `GaugeScene.previous_run`: **what the readings leave behind** is that capture, by induction on the readings.
* `GaugeScene.occasions_scripted`: readings can meet anything, in any order.
* `GaugeScene.run_spansCaptures`: **every reading shows what it should.** A capture that fails is bridged by
  the next usage, and a computation that fails costs one reading.
-/

import HostWatch.Host.CpuGauge
import HostWatch.Proofs.Stateful
import Mathlib.Data.List.Induction

namespace HostWatch

/-- **What a reading meets**: how its capture ends, and how the usage between two captures would come out
behind it. -/
structure Occasion (Capture : Type) where
  capture : Except Failure (Option Capture)
  usage : Capture → Capture → Except Failure CpuUsage

namespace Occasion

variable {Capture : Type}

/-- The occasion of a gauge in some world. -/
def of {σ : Type} (gauge : CpuGauge (Stateful σ) Capture) (world : σ) : Occasion Capture where
  capture := (gauge.capture.run.run world).1
  usage earlier later := ((gauge.usage earlier later).run.run (gauge.capture.run.run world).2).1

/-- What a reading leaves behind and shows, given what the reading before left behind. -/
def reading (occasion : Occasion Capture) (previous : Option Capture) : CpuReading Capture :=
  match occasion.capture with
  | .error _ => ⟨previous, none⟩
  | .ok capture => ⟨capture,
      match previous, capture with
      | some earlier, some later => (occasion.usage earlier later).toOption
      | _, _ => some .idle⟩

/-- The capture fails, or the usage since a given one cannot be computed. -/
def Fails (occasion : Occasion Capture) (previous : Option Capture) : Prop :=
  (∃ failure, occasion.capture = .error failure) ∨
    ∃ earlier later failure, previous = some earlier ∧ occasion.capture = .ok (some later) ∧
      occasion.usage earlier later = .error failure

/-- A reading shows no usage exactly when something failed. -/
theorem usage_reading_eq_none_iff (occasion : Occasion Capture) (previous : Option Capture) :
    (occasion.reading previous).usage = none ↔ occasion.Fails previous := by
  unfold reading Fails
  cases occasion.capture with
  | error failure => simp
  | ok capture =>
    cases previous with
    | none => simp
    | some earlier =>
      cases capture with
      | none => simp
      | some later =>
        cases computed : occasion.usage earlier later with
        | error failure => simp [computed, Except.toOption]
        | ok usage => simp [computed, Except.toOption]

/-- A usage that a reading shows is none at all, or was computed. -/
theorem eq_idle_or_of_usage_reading {occasion : Occasion Capture} {previous : Option Capture} {used : CpuUsage}
    (shows : (occasion.reading previous).usage = some used) :
    used = .idle ∨ ∃ earlier later, occasion.usage earlier later = .ok used := by
  unfold reading at shows
  cases captured : occasion.capture with
  | error failure => simp [captured] at shows
  | ok capture =>
    rw [captured] at shows
    cases previous with
    | none => exact .inl (Option.some.inj shows).symm
    | some earlier =>
      cases capture with
      | none => exact .inl (Option.some.inj shows).symm
      | some later =>
        exact .inr ⟨earlier, later, eq_ok_of_toOption shows⟩

/-! ### What a reading should show -/

/-- The outcome of the latest capture that did not fail, if there is one. -/
def latest (occasions : List (Occasion Capture)) : Option (Option Capture) :=
  (occasions.filterMap fun occasion => occasion.capture.toOption).getLast?

/-- **What a reading should show** after some other ones. -/
def shown (earlier : List (Occasion Capture)) (occasion : Occasion Capture) : Option CpuUsage :=
  match occasion.capture with
  | .error _ => none
  | .ok none => some .idle
  | .ok (some capture) =>
    match latest earlier with
    | some (some before) => (occasion.usage before capture).toOption
    | _ => some .idle

theorem latest_concat (earlier : List (Occasion Capture)) (occasion : Occasion Capture) :
    latest (earlier ++ [occasion]) = occasion.capture.toOption.or (latest earlier) := by
  unfold latest
  rw [List.filterMap_append, List.getLast?_append]
  congr 1
  rw [List.filterMap_cons]
  cases occasion.capture <;> rfl

theorem usage_reading (occasion : Occasion Capture) (earlier : List (Occasion Capture)) :
    (occasion.reading (latest earlier).join).usage = shown earlier occasion := by
  unfold reading shown
  rcases occasion.capture with failure | (_ | capture)
  · rfl
  · simp
  · rcases latest earlier with _ | (_ | before) <;> rfl

/-- A reading leaves behind the latest capture that did not fail. -/
theorem previous_reading (occasion : Occasion Capture) (earlier : List (Occasion Capture)) :
    (occasion.reading (latest earlier).join).previous = (latest (earlier ++ [occasion])).join := by
  rw [latest_concat]
  unfold reading
  cases occasion.capture <;> rfl

end Occasion

/-! ### One reading -/

namespace CpuGauge

open Stateful

variable {σ Capture α : Type}

theorem run_attempt (computation : Stateful σ α) (state : σ) :
    (attempt computation : Stateful σ (Option α)).run.run state =
      (.ok (computation.run.run state).1.toOption, (computation.run.run state).2) := by
  unfold attempt
  rw [run_tryCatch, map_eq_pure_bind, run_bind]
  obtain ⟨value | failure, after⟩ := computation.run.run state <;> rfl

/-- **One reading** cannot fail. It leaves behind and shows what its occasion says. -/
theorem run_read (gauge : CpuGauge (Stateful σ) Capture) (previous : Option Capture) (world : σ) :
    ((gauge.read previous).run.run world).1 = .ok ((Occasion.of gauge world).reading previous) := by
  unfold read
  rw [run_bind, run_attempt]
  unfold Occasion.reading Occasion.of
  rcases gauge.capture.run.run world with ⟨failure | (_ | later), after⟩
  · rfl
  · cases previous <;> rfl
  · cases previous with
    | none => rfl
    | some earlier =>
      show ((attempt (gauge.usage earlier later) >>= fun usage =>
        pure (⟨some later, usage⟩ : CpuReading Capture) : Stateful σ _).run.run after).1 = _
      rw [run_bind, run_attempt]
      rfl

theorem keeps_attempt {γ : Type} {part : σ → γ} {computation : Stateful σ α} (kept : Keeps part computation) :
    Keeps part (attempt computation) := by
  intro state
  rw [run_attempt]
  exact kept state

theorem keeps_read {γ : Type} {part : σ → γ} {gauge : CpuGauge (Stateful σ) Capture}
    (kept : Keeps part gauge.capture) (keptThen : ∀ earlier later, Keeps part (gauge.usage earlier later))
    (previous : Option Capture) : Keeps part (gauge.read previous) := by
  unfold read
  refine (keeps_attempt kept).bind fun captured => ?_
  rcases captured with _ | (_ | later)
  · exact keeps_pure _
  · cases previous <;> exact keeps_pure _
  · cases previous with
    | none => exact keeps_pure _
    | some earlier => exact (keeps_attempt (keptThen earlier later)).bind fun usage => keeps_pure _

/-- A reading leaves a world alone that its capture and its computation leave alone. -/
theorem world_read {gauge : CpuGauge (Stateful σ) Capture} {world : σ}
    (captured : (gauge.capture.run.run world).2 = world)
    (computed : ∀ earlier later, ((gauge.usage earlier later).run.run world).2 = world) (previous : Option Capture) :
    ((gauge.read previous).run.run world).2 = world := by
  unfold read
  rw [run_bind, run_attempt, captured]
  rcases (gauge.capture.run.run world).1.toOption with _ | (_ | later)
  · rfl
  · cases previous <;> rfl
  · cases previous with
    | none => rfl
    | some earlier =>
      show ((attempt (gauge.usage earlier later) >>= fun usage =>
        pure (⟨some later, usage⟩ : CpuReading Capture) : Stateful σ _).run.run world).2 = _
      rw [run_bind, run_attempt]
      exact computed earlier later

end CpuGauge

/-! ### Many readings -/

/-- A gauge, its world, and what the last reading left behind. -/
structure GaugeScene (σ Capture : Type) where
  gauge : CpuGauge (Stateful σ) Capture
  previous : Option Capture
  world : σ

namespace GaugeScene

variable {σ Capture : Type}

/-- A gauge that was not read yet. -/
def of (gauge : CpuGauge (Stateful σ) Capture) (world : σ) : GaugeScene σ Capture := ⟨gauge, none, world⟩

/-- The world changes. -/
def pass (scene : GaugeScene σ Capture) (change : σ → σ) : GaugeScene σ Capture :=
  { scene with world := change scene.world }

def occasion (scene : GaugeScene σ Capture) : Occasion Capture := .of scene.gauge scene.world

/-- A reading: what it answers, and the scene afterwards. -/
def read (scene : GaugeScene σ Capture) : Except Failure (Option CpuUsage) × GaugeScene σ Capture :=
  match (scene.gauge.read scene.previous).run.run scene.world with
  | (.ok reading, world) => (.ok reading.usage, { scene with previous := reading.previous, world := world })
  | (.error failure, world) => (.error failure, { scene with world := world })

/-- Readings, each after a change of the world. -/
def run (scene : GaugeScene σ Capture) (changes : List (σ → σ)) : GaugeScene σ Capture :=
  changes.foldl (fun scene change => (scene.pass change).read.2) scene

/-- What these readings meet. -/
def occasions (scene : GaugeScene σ Capture) : List (σ → σ) → List (Occasion Capture)
  | [] => []
  | first :: rest => (scene.pass first).occasion :: (scene.pass first).read.2.occasions rest

theorem run_concat (scene : GaugeScene σ Capture) (changes : List (σ → σ)) (change : σ → σ) :
    scene.run (changes ++ [change]) = ((scene.run changes).pass change).read.2 := by
  unfold run
  rw [List.foldl_append]
  rfl

theorem occasions_concat (scene : GaugeScene σ Capture) (changes : List (σ → σ)) (change : σ → σ) :
    scene.occasions (changes ++ [change]) =
      scene.occasions changes ++ [((scene.run changes).pass change).occasion] := by
  induction changes generalizing scene with
  | nil => rfl
  | cons first rest ih =>
    show _ :: (scene.pass first).read.2.occasions (rest ++ [change]) = _
    rw [ih]
    rfl

theorem read_eq (scene : GaugeScene σ Capture) :
    scene.read = (.ok (scene.occasion.reading scene.previous).usage,
      { scene with
        previous := (scene.occasion.reading scene.previous).previous
        world := ((scene.gauge.read scene.previous).run.run scene.world).2 }) := by
  have reads := CpuGauge.run_read scene.gauge scene.previous scene.world
  unfold read
  generalize (scene.gauge.read scene.previous).run.run scene.world = result at reads ⊢
  obtain ⟨outcome, after⟩ := result
  obtain rfl : outcome = .ok _ := reads
  rfl

/-- **What the readings leave behind** is the latest capture that did not fail. -/
theorem previous_run (gauge : CpuGauge (Stateful σ) Capture) (world : σ) (changes : List (σ → σ)) :
    ((of gauge world).run changes).previous = (Occasion.latest ((of gauge world).occasions changes)).join := by
  induction changes using List.reverseRecOn with
  | nil => rfl
  | append_singleton changes change ih =>
    -- The last reading compares with what the ones before it left, which is known by induction.
    have passed : (((of gauge world).run changes).pass change).previous =
        (Occasion.latest ((of gauge world).occasions changes)).join := ih
    rw [run_concat, read_eq, passed, Occasion.previous_reading, occasions_concat]

/-! ### Every sequence of occasions -/

/-- The gauge whose world is the occasion that its readings meet. -/
def scripted : CpuGauge (Stateful (Occasion Capture)) Capture where
  capture := do ofExcept (← get).capture
  usage earlier later := do ofExcept ((← get).usage earlier later)

theorem of_scripted (occasion : Occasion Capture) : Occasion.of scripted occasion = occasion := by
  have run {α : Type} (part : Occasion Capture → Except Failure α) :
      (do ofExcept (part (← get)) : Stateful (Occasion Capture) α).run.run occasion =
        (part occasion, occasion) := by
    show ((ofExcept (part occasion) : Stateful (Occasion Capture) α).run.run occasion) = _
    cases part occasion <;> rfl
  have captured : (scripted.capture.run.run occasion) = (occasion.capture, occasion) := run Occasion.capture
  unfold Occasion.of
  rw [captured]
  have computed (earlier later : Capture) :
      ((scripted.usage earlier later).run.run occasion).1 = occasion.usage earlier later :=
    congrArg Prod.fst (run fun occasion => occasion.usage earlier later)
  simp only [computed]

/-- **Readings can meet anything**, in any order. -/
theorem occasions_scripted (scene : GaugeScene (Occasion Capture) Capture) (script : scene.gauge = scripted)
    (occasions : List (Occasion Capture)) :
    scene.occasions (occasions.map fun occasion _ => occasion) = occasions := by
  induction occasions generalizing scene with
  | nil => rfl
  | cons first rest ih =>
    have meets : (scene.pass fun _ => first).occasion = first := by
      show Occasion.of scene.gauge first = first
      rw [script, of_scripted]
    have gauge_eq : (scene.pass fun _ => first).read.2.gauge = scripted := by
      rw [read_eq]
      exact script
    show (scene.pass fun _ => first).occasion :: _ = first :: rest
    rw [meets, ih _ gauge_eq]

/-! ### Every sequence of readings -/

/-- **Readings whose usages span the captures**, for readings after some others. -/
structure SpansCaptures (start : GaugeScene σ Capture) (changes : List (σ → σ)) : Prop where
  /-- The next reading does not fail and shows what it should. -/
  answer_eq : ∀ change, ((start.run changes).pass change).read.1 =
    .ok (Occasion.shown (start.occasions changes) ((start.run changes).pass change).occasion)
  /-- A capture that fails shows no usage, and the next usage is that since the capture before. -/
  bridges : ∀ change next failure earlier later,
    Occasion.latest (start.occasions changes) = some (some earlier) →
    ((start.run changes).pass change).occasion.capture = .error failure →
    ((start.run (changes ++ [change])).pass next).occasion.capture = .ok (some later) →
    ((start.run changes).pass change).read.1 = .ok none ∧
      ((start.run (changes ++ [change])).pass next).read.1 =
        .ok (((start.run (changes ++ [change])).pass next).occasion.usage earlier later).toOption
  /-- The next usage is that since the capture of this reading, whether or not this reading could compute
  one. -/
  renews : ∀ change next earlier later,
    ((start.run changes).pass change).occasion.capture = .ok (some earlier) →
    ((start.run (changes ++ [change])).pass next).occasion.capture = .ok (some later) →
    ((start.run (changes ++ [change])).pass next).read.1 =
      .ok (((start.run (changes ++ [change])).pass next).occasion.usage earlier later).toOption

theorem answer_run (gauge : CpuGauge (Stateful σ) Capture) (world : σ) (changes : List (σ → σ))
    (change : σ → σ) :
    (((of gauge world).run changes).pass change).read.1 =
      .ok (Occasion.shown ((of gauge world).occasions changes)
        (((of gauge world).run changes).pass change).occasion) := by
  have passed : (((of gauge world).run changes).pass change).previous =
      (Occasion.latest ((of gauge world).occasions changes)).join := previous_run gauge world changes
  rw [read_eq, passed, Occasion.usage_reading]

/-- A reading whose capture is there shows the usage since the latest one. -/
theorem answer_of_latest {gauge : CpuGauge (Stateful σ) Capture} {world : σ} {changes : List (σ → σ)}
    {change : σ → σ} {earlier later : Capture}
    (last : Occasion.latest ((of gauge world).occasions changes) = some (some earlier))
    (there : (((of gauge world).run changes).pass change).occasion.capture = .ok (some later)) :
    (((of gauge world).run changes).pass change).read.1 =
      .ok ((((of gauge world).run changes).pass change).occasion.usage earlier later).toOption := by
  rw [answer_run]
  unfold Occasion.shown
  rw [there, last]

/-- **Every reading of a gauge shows what it should**, whatever fails before it and whatever happens between
the readings. -/
theorem run_spansCaptures (gauge : CpuGauge (Stateful σ) Capture) (world : σ) (changes : List (σ → σ)) :
    (of gauge world).SpansCaptures changes := by
  refine ⟨answer_run gauge world changes, ?_, ?_⟩
  · intro change next failure earlier later last fails there
    have same : Occasion.latest ((of gauge world).occasions (changes ++ [change])) = some (some earlier) := by
      rw [occasions_concat, Occasion.latest_concat, fails]
      exact last
    refine ⟨?_, answer_of_latest same there⟩
    rw [answer_run]
    unfold Occasion.shown
    rw [fails]
  · intro change next earlier later before there
    have newest : Occasion.latest ((of gauge world).occasions (changes ++ [change])) = some (some earlier) := by
      rw [occasions_concat, Occasion.latest_concat, before]
      rfl
    exact answer_of_latest newest there

end GaugeScene

end HostWatch
