/-
**Starts and stops that overlap.**

A start has three parts: it marks the service as running, then prepares it, and then either launches the
thread or, when the preparation fails, takes the service back to its first stage. A stop has three parts
too: it marks the service as stopped, then signals the thread, and then releases what the service holds. The
parts of the calls of any threads may come in any order, as long as each call makes its own parts in turn.

* `CallScene`: a service, with the calls that are under way and a count of what they did.
* `CallScene.Consistent`, `consistent_run`: the account that every run keeps.
* `CallScene.Effect.stopped_or_undone`, `stopped_run`: the one event by which a stopped service stops being
  stopped, and what follows for a run.
* `CallScene.run_accountsForStops`: **every stop that took effect still holds, or was undone by a start that
  failed after it.** At most one start ends well and launches a thread.
* `CallScene.stop_undone`: a stop between the first part of a start and its failure is undone. The service
  can then be started, and its next stop releases it a second time.
-/

import HostWatch.Service.Background

namespace HostWatch

namespace Background

variable {A : Type}

/-- A start at the first stage is let through. -/
theorem beginStart_of_created {service : Background A} (created : service.stage = .created) :
    service.beginStart = .ok { service with stage := .running } := by
  unfold beginStart
  rw [created]
  rfl

/-- A start at any other stage is refused. -/
theorem beginStart_of_not_created {service : Background A} (later : service.stage ≠ .created) :
    service.beginStart = .error (.service (.notStartable service.name service.stage)) := by
  unfold beginStart
  cases stage : service.stage with
  | created => exact absurd stage later
  | running => rfl
  | stopped => rfl

/-- A registration leaves the stage alone. -/
theorem stage_register {service after : Background A} {name : String} {action : A} {due : Int}
    {delay? : Option Int} (done : service.register name action due delay? = .ok after) :
    after.stage = service.stage := by
  unfold register at done
  split at done
  · cases done
  · cases done
    rfl

end Background

/-! ### Events -/

/-- A part of a start or of a stop. -/
inductive CallEvent (A : Type) where
  /-- The first part of a start: the service is marked as running, unless it refuses. -/
  | beginStart
  /-- A step of the preparation: a task is registered. -/
  | register (name : String) (action : A) (due : Int) (delay? : Option Int)
  /-- The preparation fails, and the start with it. -/
  | failStart
  /-- The preparation is done, the thread is launched, and the start ends well. -/
  | launch (thread : Nat)
  /-- The first part of a stop: a service that runs is marked as stopped. -/
  | markStop
  /-- The second part of a stop that took effect: the thread is signalled. -/
  | signalStop
  /-- The third part of a stop that took effect: the service is released. -/
  | release

def CallEvent.stop {A : Type} : List (CallEvent A) := [.markStop, .signalStop, .release]

/-- A service, and the calls of its starts and stops. -/
structure CallScene (A : Type) where
  service : Background A
  /-- How many starts are at their preparation. -/
  preparing : Nat
  /-- How many starts launched a thread and ended well. -/
  started : Nat
  /-- How many stops took effect. -/
  stopped : Nat
  /-- How many of these stops have yet to signal the thread. -/
  signalling : Nat
  /-- How many of them have signalled the thread and have yet to release the service. -/
  releasing : Nat
  /-- How many times the service was released. -/
  released : Nat
  /-- How many times a start failed when the service was stopped. -/
  undone : Nat

namespace CallScene

variable {A : Type}

/-- A service before its first start. -/
def of (scale : TimeScale) (name : String) : CallScene A := ⟨.of scale name, 0, 0, 0, 0, 0, 0, 0⟩

/-- One if the service is stopped. -/
def isStopped (scene : CallScene A) : Nat := if scene.service.stage = .stopped then 1 else 0

/-- What comes after an event. A part of a call that no call has come to changes nothing. -/
def happen (scene : CallScene A) : CallEvent A → CallScene A
  | .beginStart =>
    match scene.service.beginStart with
    | .error _ => scene
    | .ok service => { scene with service := service, preparing := scene.preparing + 1 }
  | .register name action due delay? =>
    match scene.service.register name action due delay? with
    | .error _ => scene
    | .ok service => { scene with service := service }
  | .failStart =>
    if 0 < scene.preparing then { scene with
      service := scene.service.failStart
      preparing := scene.preparing - 1
      undone := scene.undone + scene.isStopped }
    else scene
  | .launch thread =>
    if 0 < scene.preparing then { scene with
      service := scene.service.launch thread
      preparing := scene.preparing - 1
      started := scene.started + 1 }
    else scene
  | .markStop =>
    if scene.service.stage = .running then { scene with
      service := scene.service.markStopped
      stopped := scene.stopped + 1
      signalling := scene.signalling + 1 }
    else scene
  | .signalStop =>
    if 0 < scene.signalling then { scene with
      service := scene.service.signalStop
      signalling := scene.signalling - 1
      releasing := scene.releasing + 1 }
    else scene
  | .release =>
    if 0 < scene.releasing then { scene with
      releasing := scene.releasing - 1
      released := scene.released + 1 }
    else scene

def run (scene : CallScene A) (events : List (CallEvent A)) : CallScene A := events.foldl happen scene

@[simp] theorem run_nil (scene : CallScene A) : scene.run [] = scene := rfl

@[simp] theorem run_cons (scene : CallScene A) (first : CallEvent A) (rest : List (CallEvent A)) :
    scene.run (first :: rest) = (scene.happen first).run rest := rfl

/-! ### What an event can do -/

/-- What an event does, with all that holds when it does that. -/
inductive Effect (scene : CallScene A) : CallEvent A → CallScene A → Prop where
  /-- It changes nothing of the stage and of the counts. -/
  | quiet (event : CallEvent A) (service : Background A) (same : service.stage = scene.service.stage) :
      Effect scene event { scene with service := service }
  | beginStart (created : scene.service.stage = .created) :
      Effect scene .beginStart
        { scene with service := { scene.service with stage := .running }, preparing := scene.preparing + 1 }
  | failStart (under : 0 < scene.preparing) :
      Effect scene .failStart { scene with
        service := scene.service.failStart
        preparing := scene.preparing - 1
        undone := scene.undone + scene.isStopped }
  /-- It ends a start that does not fail. -/
  | launch (thread : Nat) (under : 0 < scene.preparing) :
      Effect scene (.launch thread) { scene with
        service := scene.service.launch thread
        preparing := scene.preparing - 1
        started := scene.started + 1 }
  | markStop (runs : scene.service.stage = .running) :
      Effect scene .markStop { scene with
        service := scene.service.markStopped
        stopped := scene.stopped + 1
        signalling := scene.signalling + 1 }
  | signalStop (under : 0 < scene.signalling) :
      Effect scene .signalStop { scene with
        service := scene.service.signalStop
        signalling := scene.signalling - 1
        releasing := scene.releasing + 1 }
  | release (under : 0 < scene.releasing) :
      Effect scene .release
        { scene with releasing := scene.releasing - 1, released := scene.released + 1 }

/-- **What an event can do.** -/
theorem effect_happen (scene : CallScene A) (event : CallEvent A) :
    Effect scene event (scene.happen event) := by
  have none : Effect scene event scene := .quiet event scene.service rfl
  cases event with
  | beginStart =>
    show Effect scene .beginStart (match scene.service.beginStart with | .error _ => _ | .ok _ => _)
    by_cases created : scene.service.stage = .created
    · rw [Background.beginStart_of_created created]
      exact .beginStart created
    · rw [Background.beginStart_of_not_created created]
      exact none
  | register name action due delay? =>
    show Effect scene _ (match scene.service.register name action due delay? with
      | .error _ => _ | .ok _ => _)
    cases done : scene.service.register name action due delay? with
    | error failure => exact none
    | ok service => exact .quiet _ service (Background.stage_register done)
  | failStart =>
    by_cases under : 0 < scene.preparing
    · simpa only [happen, if_pos under] using Effect.failStart under
    · simpa only [happen, if_neg under] using none
  | launch thread =>
    by_cases under : 0 < scene.preparing
    · simpa only [happen, if_pos under] using Effect.launch thread under
    · simpa only [happen, if_neg under] using none
  | markStop =>
    by_cases runs : scene.service.stage = .running
    · simpa only [happen, if_pos runs] using Effect.markStop runs
    · simpa only [happen, if_neg runs] using none
  | signalStop =>
    by_cases under : 0 < scene.signalling
    · simpa only [happen, if_pos under] using Effect.signalStop under
    · simpa only [happen, if_neg under] using none
  | release =>
    by_cases under : 0 < scene.releasing
    · simpa only [happen, if_pos under] using Effect.release under
    · simpa only [happen, if_neg under] using none

/-! ### The account -/

/-- **The account of the calls.** -/
structure Consistent (scene : CallScene A) : Prop where
  /-- One start at most is under way or has ended well, and none at the first stage. -/
  starts_le : scene.started + scene.preparing ≤ 1
  starts_eq : scene.service.stage = .created → scene.started + scene.preparing = 0
  /-- Each stop that took effect still holds or was undone. -/
  stopped_eq : scene.stopped = scene.undone + scene.isStopped
  /-- Each of them signals once, and then releases once. -/
  releases_eq : scene.released + scene.releasing + scene.signalling = scene.stopped

theorem consistent_of (scale : TimeScale) (name : String) : (of scale name : CallScene A).Consistent :=
  ⟨Nat.zero_le 1, fun _ => rfl, rfl, rfl⟩

/-- **Every event keeps the account.** -/
theorem Consistent.effect {scene after : CallScene A} {event : CallEvent A} (consistent : scene.Consistent)
    (effect : Effect scene event after) : after.Consistent := by
  obtain ⟨starts_le, starts_eq, stopped_eq, releases_eq⟩ := consistent
  unfold isStopped at stopped_eq
  cases effect with
  | quiet _ service same =>
    refine ⟨starts_le, fun created => starts_eq (same ▸ created), ?_, releases_eq⟩
    unfold isStopped
    rw [same]
    exact stopped_eq
  | beginStart created =>
    have idle := starts_eq created
    rw [created] at stopped_eq
    exact ⟨by show scene.started + (scene.preparing + 1) ≤ 1; omega, nofun, stopped_eq, releases_eq⟩
  | failStart under =>
    refine ⟨?_, fun _ => ?_, stopped_eq, releases_eq⟩
    · show scene.started + (scene.preparing - 1) ≤ 1
      omega
    · show scene.started + (scene.preparing - 1) = 0
      omega
  | launch thread under =>
    refine ⟨?_, fun created => ?_, stopped_eq, releases_eq⟩
    · show scene.started + 1 + (scene.preparing - 1) ≤ 1
      omega
    · have := starts_eq created
      omega
  | markStop runs =>
    rw [runs] at stopped_eq
    refine ⟨starts_le, nofun, ?_, ?_⟩
    · exact congrArg (· + 1) stopped_eq
    · exact congrArg (· + 1) releases_eq
  | signalStop under =>
    refine ⟨starts_le, starts_eq, stopped_eq, ?_⟩
    show scene.released + (scene.releasing + 1) + (scene.signalling - 1) = scene.stopped
    omega
  | release under =>
    refine ⟨starts_le, starts_eq, stopped_eq, ?_⟩
    show scene.released + 1 + (scene.releasing - 1) + scene.signalling = scene.stopped
    omega

/-- **Every run keeps the account.** -/
theorem consistent_run {scene : CallScene A} (consistent : scene.Consistent)
    (events : List (CallEvent A)) : (scene.run events).Consistent := by
  induction events generalizing scene with
  | nil => exact consistent
  | cons first rest ih => exact ih (consistent.effect (effect_happen scene first))

/-! ### Stopped services -/

/-- **The one event by which a stopped service stops being stopped** is the failure of a start that was let
through before the stop. -/
theorem Effect.stopped_or_undone {scene after : CallScene A} {event : CallEvent A}
    (effect : Effect scene event after) (stopped : scene.service.stage = .stopped) :
    after.service.stage = .stopped ∧ after.undone = scene.undone ∨
      event = .failStart ∧ 0 < scene.preparing ∧ after.undone = scene.undone + 1 := by
  cases effect with
  | quiet _ service same => exact .inl ⟨same.trans stopped, rfl⟩
  | beginStart created =>
    rw [stopped] at created
    cases created
  | failStart under =>
    refine .inr ⟨rfl, under, ?_⟩
    show scene.undone + scene.isStopped = scene.undone + 1
    rw [isStopped, if_pos stopped]
  | markStop runs => exact .inl ⟨rfl, rfl⟩
  | launch thread under => exact .inl ⟨stopped, rfl⟩
  | signalStop under => exact .inl ⟨stopped, rfl⟩
  | release under => exact .inl ⟨stopped, rfl⟩

theorem Effect.undone_le {scene after : CallScene A} {event : CallEvent A}
    (effect : Effect scene event after) : scene.undone ≤ after.undone := by
  cases effect with
  | failStart under => exact Nat.le_add_right ..
  | _ => exact Nat.le_refl _

theorem undone_le_run (scene : CallScene A) (events : List (CallEvent A)) :
    scene.undone ≤ (scene.run events).undone := by
  induction events generalizing scene with
  | nil => exact Nat.le_refl _
  | cons first rest ih => exact Nat.le_trans (effect_happen scene first).undone_le (ih _)

/-- **A service stays stopped** as long as no start fails that was let through before. -/
theorem stopped_run {scene : CallScene A} (stopped : scene.service.stage = .stopped)
    {later : List (CallEvent A)} (kept : (scene.run later).undone = scene.undone) :
    (scene.run later).service.stage = .stopped := by
  induction later generalizing scene with
  | nil => exact stopped
  | cons first rest ih =>
    rw [run_cons] at kept ⊢
    rcases (effect_happen scene first).stopped_or_undone stopped with ⟨still, same⟩ | ⟨-, -, more⟩
    · exact ih still (kept.trans same.symm)
    · have := undone_le_run (scene.happen first) rest
      omega

/-! ### Every interleaving -/

/-- **What becomes of starts and stops**, whatever overlaps. -/
structure AccountsForStops (scene : CallScene A) : Prop where
  /-- One start at most ends well, and so one thread at most is launched. -/
  started_le : scene.started ≤ 1
  /-- Each stop that took effect still holds, or was undone by a start that failed after it. -/
  stopped_eq : scene.stopped = scene.undone + scene.isStopped
  /-- The service is released once at most for each stop that took effect. -/
  released_le : scene.released ≤ scene.stopped
  refuses : scene.service.stage = .stopped →
    scene.service.beginStart = .error (.service (.notStartable scene.service.name .stopped))
  /-- A stopped service stays stopped, whatever comes, unless a start fails that was let through before. -/
  stays : scene.service.stage = .stopped → ∀ later, (scene.run later).undone = scene.undone →
    (scene.run later).service.stage = .stopped

/-- **Every interleaving accounts for its stops.** When no start fails after a stop, one stop at most takes
effect, for good, and the service is released once at most. -/
theorem run_accountsForStops (scale : TimeScale) (name : String) (events : List (CallEvent A)) :
    AccountsForStops ((of scale name).run events) := by
  have consistent := consistent_run (consistent_of scale name) events
  refine ⟨?_, consistent.stopped_eq, ?_, fun stopped => ?_, fun stopped later kept => ?_⟩
  · have := consistent.starts_le
    omega
  · have := consistent.releases_eq
    omega
  · rw [Background.beginStart_of_not_created (by rw [stopped]; nofun), stopped]
  · exact stopped_run stopped kept

/-- **A stop between the first part of a start and its failure is undone.** The service that was stopped and
released is back at its first stage; it is started, launches a thread, and is stopped and released a second
time. -/
theorem stop_undone :
    ((of .exact "Ticker" : CallScene Unit).run (.beginStart :: CallEvent.stop)).service.stage = .stopped ∧
      ((of .exact "Ticker" : CallScene Unit).run (.beginStart :: CallEvent.stop ++
        [.failStart])).service.stage = .created ∧
      ((of .exact "Ticker" : CallScene Unit).run (.beginStart :: CallEvent.stop ++
        [.failStart, .beginStart, .launch 1])).started = 1 ∧
      ((of .exact "Ticker" : CallScene Unit).run (.beginStart :: CallEvent.stop ++
        [.failStart, .beginStart, .launch 1] ++ CallEvent.stop)).released = 2 := by
  decide

end CallScene

end HostWatch
