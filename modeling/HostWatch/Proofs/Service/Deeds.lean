/-
**What the runs make of the world.**

The world of a service changes when a run of a task begins, when it ends, and from outside. A deed is one of these,
and the deeds of some events are listed in the order in which they are done.

* `Deed.apply`: what a deed makes of the world.
* `ThreadScene.deeds`: **the deeds of some events.**
* `ThreadScene.world_run`: the world is what the deeds make of it, one after the other.
* `ThreadScene.Follows.steps_run`: the deeds of the thread are those of its log. Each run begins once and ends once, at
  the readings of the clock that the log has for it, and one that is under way began and did not end.
* `ThreadScene.changes_run`: all others are changes from outside.
* `ThreadScene.run_does`: **what all of it comes to** for a service that was prepared and then launched. The runs
  themselves are those of `ThreadScene.KeepsTo`.
-/

import HostWatch.Proofs.Service.Following

namespace HostWatch

variable {A W : Type}

/-! ### Deeds -/

/-- Something that is done to the world of a service. -/
inductive Deed (A W : Type) where
  /-- The run of a task begins at a reading of the clock. -/
  | begin (task : Task A) (start : Int)
  /-- It ends at a reading of the clock, with the service as it is then. -/
  | finish (task : Task A) (ending : Int) (service : Background A)
  | outside (change : W → W)

/-- The beginning or the end of a run. -/
inductive RunStep (A : Type) where
  | begin (task : Task A) (start : Int)
  | finish (task : Task A) (ending : Int)

namespace Deed

/-- What a deed makes of the world. -/
def apply (conduct : Conduct A W) (world : W) : Deed A W → W
  | begin task start => (conduct.begin task start world).2
  | finish task ending service => (conduct.finish task ending (service, world)).2.2
  | outside change => change world

/-- The part that a deed has in a run, if it is one of the thread. -/
def step? : Deed A W → Option (RunStep A)
  | begin task start => some (.begin task start)
  | finish task ending _ => some (.finish task ending)
  | outside _ => none

def change? : Deed A W → Option (W → W)
  | outside change => some change
  | _ => none

end Deed

def ThreadEvent.change? : ThreadEvent W → Option (W → W)
  | world change => some change
  | _ => none

def TaskRun.steps (run : TaskRun A) : List (RunStep A) :=
  [.begin run.task run.start, .finish run.task run.ending]

/-- What a turn does to the world, given what the timeline comes to. -/
def Timeline.deeds (line after : Timeline A W) : List (Deed A W) :=
  match line.service.runner, after.service.runner with
  | .running task _, _ => [.finish task after.clock line.service]
  | _, .running task _ => [.begin task after.clock]
  | _, _ => []

namespace ThreadScene

/-- The steps of the runs in the log, with the beginning of the one that is under way. -/
def steps (scene : ThreadScene A W) : List (RunStep A) :=
  scene.runs.flatMap TaskRun.steps ++ (scene.current?.map fun (task, start) => .begin task start).toList

def deedsOf (conduct : Conduct A W) (scene : ThreadScene A W) : ThreadEvent W → List (Deed A W)
  | .turn limit => ((scene.line.turn? conduct limit).map scene.line.deeds).getD []
  | .world change => [.outside change]
  | _ => []

theorem deedsOf_turn_of_none (conduct : Conduct A W) {scene : ThreadScene A W} {limit : Int}
    (rests : scene.line.turn? conduct limit = none) : scene.deedsOf conduct (.turn limit) = [] := by
  show ((scene.line.turn? conduct limit).map scene.line.deeds).getD [] = []
  rw [rests]
  rfl

theorem deedsOf_turn_of_some (conduct : Conduct A W) {scene : ThreadScene A W} {limit : Int}
    {line : Timeline A W} (turns : scene.line.turn? conduct limit = some line) :
    scene.deedsOf conduct (.turn limit) = scene.line.deeds line := by
  show ((scene.line.turn? conduct limit).map scene.line.deeds).getD [] = _
  rw [turns]
  rfl

/-- **The deeds of some events**, in the order in which they are done. -/
def deeds (conduct : Conduct A W) (scene : ThreadScene A W) : List (ThreadEvent W) → List (Deed A W)
  | [] => []
  | first :: rest => scene.deedsOf conduct first ++ (scene.happen conduct first).deeds conduct rest

/-! ### The world -/

theorem world_turn {conduct : Conduct A W} {limit : Int} {line after : Timeline A W}
    (turn : Timeline.Turn conduct limit line after) :
    after.world = (line.deeds after).foldl (Deed.apply conduct) line.world := by
  unfold Timeline.deeds
  cases turn with
  | finish runs => rw [runs]; rfl
  | stop between =>
    rcases between with waits | ⟨ending, sleeps⟩
    · rw [waits]; rfl
    · rw [sleeps]; rfl
  | sleep waits => rw [waits]; rfl
  | begin waits => rw [waits]; rfl
  | wake sleeps => rw [sleeps]; rfl

theorem world_happen (conduct : Conduct A W) (scene : ThreadScene A W) (event : ThreadEvent W) :
    (scene.happen conduct event).line.world =
      (scene.deedsOf conduct event).foldl (Deed.apply conduct) scene.line.world := by
  cases event with
  | turn limit =>
    cases turns : scene.line.turn? conduct limit with
    | none =>
      rw [happen_turn_of_none conduct turns, deedsOf_turn_of_none conduct turns]
      rfl
    | some line =>
      rw [happen_turn_of_some conduct turns, deedsOf_turn_of_some conduct turns]
      exact world_turn (Timeline.turn_of_turn? turns)
  | pass now =>
    unfold happen
    dsimp only
    split
    · rfl
    · rfl
  | stop => rfl
  | world change => rfl

/-- **The world is what the deeds make of it**, one after the other. -/
theorem world_run (conduct : Conduct A W) (scene : ThreadScene A W) (events : List (ThreadEvent W)) :
    (scene.run conduct events).line.world =
      (scene.deeds conduct events).foldl (Deed.apply conduct) scene.line.world := by
  induction events generalizing scene with
  | nil => rfl
  | cons first rest ih => rw [run_cons, ih, world_happen, deeds, List.foldl_append]

/-! ### The deeds of the thread -/

section Steps

variable {scale : TimeScale} {roster : Roster A} {scene : ThreadScene A W}

/-- A turn between two runs begins the one that is under way afterwards, if one is. -/
theorem steps_afterTurn_of_between (between : scene.line.Between) (idle : scene.current? = none)
    (line : Timeline A W) :
    (scene.afterTurn line).steps = scene.steps ++ (scene.line.deeds line).filterMap Deed.step? := by
  have log : scene.steps = scene.runs.flatMap TaskRun.steps := by
    unfold steps
    rw [idle]
    exact List.append_nil _
  have does : (scene.line.deeds line).filterMap Deed.step? =
      ((scene.afterTurn line).current?.map fun (task, start) => .begin task start).toList := by
    unfold Timeline.deeds afterTurn
    rcases between with waits | ⟨ending, sleeps⟩
    · rw [waits]
      cases line.service.runner <;> rfl
    · rw [sleeps]
      cases line.service.runner <;> rfl
  rw [log, does]
  unfold steps
  rw [runs_afterTurn_of_between between]

/-- The turn at the end of a run ends the one that was under way. -/
theorem steps_afterTurn_of_running {task : Task A} {ending start : Int}
    (runs : scene.line.service.runner = .running task ending) (current : scene.current? = some (task, start))
    {line : Timeline A W} (idle : (scene.afterTurn line).current? = none) :
    (scene.afterTurn line).steps = scene.steps ++ (scene.line.deeds line).filterMap Deed.step? := by
  have does : (scene.line.deeds line).filterMap Deed.step? = [.finish task line.clock] := by
    unfold Timeline.deeds
    rw [runs]
    rfl
  unfold steps
  rw [does, idle, current, runs_afterTurn_of_running runs current, List.flatMap_append]
  show _ ++ [RunStep.begin task start, .finish task line.clock] ++ [] = _ ++ [.begin task start] ++ [_]
  rw [List.append_nil, List.append_assoc]
  rfl

theorem Follows.steps_happen {conduct : Conduct A W} (follows : scene.Follows scale roster)
    (event : ThreadEvent W) :
    (scene.happen conduct event).steps =
      scene.steps ++ (scene.deedsOf conduct event).filterMap Deed.step? := by
  have still : scene.steps = scene.steps ++ ([] : List (Deed A W)).filterMap Deed.step? :=
    (List.append_nil _).symm
  cases event with
  | turn limit =>
    cases turns : scene.line.turn? conduct limit with
    | none =>
      rw [happen_turn_of_none conduct turns, deedsOf_turn_of_none conduct turns]
      exact still
    | some line =>
      rw [happen_turn_of_some conduct turns, deedsOf_turn_of_some conduct turns]
      cases Timeline.turn_of_turn? turns with
      | finish runs =>
        have stands := follows.stands
        rw [runs] at stands
        exact steps_afterTurn_of_running runs stands.1 rfl
      | stop between => exact steps_afterTurn_of_between between (follows.current?_of_between between) _
      | sleep waits =>
        exact steps_afterTurn_of_between (.inl waits) (follows.current?_of_between (.inl waits)) _
      | begin waits =>
        exact steps_afterTurn_of_between (.inl waits) (follows.current?_of_between (.inl waits)) _
      | wake sleeps =>
        have between : scene.line.Between := .inr ⟨_, sleeps⟩
        exact steps_afterTurn_of_between between (follows.current?_of_between between) _
  | pass now =>
    unfold ThreadScene.happen
    dsimp only
    split
    · exact still
    · exact still
  | stop => exact still
  | world change => exact still

/-- **The deeds of the thread are those of its log.** -/
theorem Follows.steps_run {conduct : Conduct A W} (orderly : conduct.Orderly)
    (follows : scene.Follows scale roster) (distinct : roster.Distinct) (events : List (ThreadEvent W)) :
    (scene.run conduct events).steps =
      scene.steps ++ (scene.deeds conduct events).filterMap Deed.step? := by
  induction events generalizing scene with
  | nil => exact (List.append_nil _).symm
  | cons first rest ih =>
    rw [run_cons, ih (follows.happen orderly distinct first), follows.steps_happen, deeds,
      List.filterMap_append, List.append_assoc]

end Steps

/-! ### The other deeds -/

theorem changes_turn (line after : Timeline A W) : (line.deeds after).filterMap Deed.change? = [] := by
  unfold Timeline.deeds
  split <;> rfl

theorem changes_happen (conduct : Conduct A W) (scene : ThreadScene A W) (event : ThreadEvent W) :
    (scene.deedsOf conduct event).filterMap Deed.change? = event.change?.toList := by
  cases event with
  | turn limit =>
    cases turns : scene.line.turn? conduct limit with
    | none =>
      rw [deedsOf_turn_of_none conduct turns]
      rfl
    | some line =>
      rw [deedsOf_turn_of_some conduct turns]
      exact changes_turn scene.line line
  | _ => rfl

/-- **All deeds but those of the thread are changes from outside**, each made once. -/
theorem changes_run (conduct : Conduct A W) (scene : ThreadScene A W) (events : List (ThreadEvent W)) :
    (scene.deeds conduct events).filterMap Deed.change? = events.filterMap ThreadEvent.change? := by
  induction events generalizing scene with
  | nil => rfl
  | cons first rest ih =>
    rw [deeds, List.filterMap_append, changes_happen, ih, List.filterMap_cons]
    cases first.change? <;> rfl

/-! ### Services that are prepared and launched -/

/-- **What the runs of a service make of the world**: each applies its beginning and its end to it, in the order of the
log, and nothing else does but the changes from outside. -/
theorem run_does {conduct : Conduct A W} (orderly : conduct.Orderly) {service : Background A}
    {tasks : List (Task A)} (prepared : Prepared service tasks) (started : service.stage ≠ .created)
    (thread : Nat) (clock : Int) (world : W) (events : List (ThreadEvent W)) :
    ((launch service thread clock world).run conduct events).line.world =
        ((launch service thread clock world).deeds conduct events).foldl (Deed.apply conduct) world ∧
      ((launch service thread clock world).deeds conduct events).filterMap Deed.step? =
        ((launch service thread clock world).run conduct events).steps ∧
      ((launch service thread clock world).deeds conduct events).filterMap Deed.change? =
        events.filterMap ThreadEvent.change? := by
  have ready := prepared.readyFor
  have launched := follows_launch ready started thread clock world
  exact ⟨world_run .., (launched.steps_run orderly ready.distinct events).symm, changes_run ..⟩

end ThreadScene

end HostWatch
