/-
**The thread of a service.**

Once its thread is launched, a service goes its way: the thread takes its turns, time passes while it has
none, stops come from outside, and the world goes on. A log has the runs that ended and the one that is under
way.

* `Background.StopsAtMost`, `Conduct.Orderly`: what a run asks of its service comes to a stop at most. All
  else is refused once there is a thread (`Background.register_of_thread`,
  `Background.beginStart_of_not_created`).
* `Rehearsal.orderly`, `Sampler.orderly`: the conducts of the project are orderly.
* `Timeline.Turn`, `Timeline.turn_of_turn?`: **what a turn can do.**
* `ThreadScene.happen`, `ThreadScene.run`: what may happen to a service with a thread.
* `ThreadScene.line_run_turns`: the turns of a timeline are a run of such events.
-/

import HostWatch.Proofs.Service.Preparation
import HostWatch.Proofs.Service.Roster

namespace HostWatch

/-! ### What a run asks of its service -/

namespace Background

variable {A : Type} {service after later : Background A}

/-- What was asked of a service came to a stop at most. -/
def StopsAtMost (service after : Background A) : Prop := after = service ∨ service.stop? = some after

theorem StopsAtMost.refl (service : Background A) : service.StopsAtMost service := .inl rfl

theorem stopsAtMost_stop? (service : Background A) : service.StopsAtMost (service.stop?.getD service) := by
  cases done : service.stop? with
  | none => exact .inl rfl
  | some after => exact .inr done

theorem eq_of_stop? (done : service.stop? = some after) :
    service.isRunning = true ∧ after = service.markStopped.signalStop := by
  unfold stop? at done
  split at done
  · rename_i runs
    exact ⟨runs, (Option.some.inj done).symm⟩
  · cases done

/-- A second stop has no effect. -/
theorem stop?_of_stop? (done : service.stop? = some after) : after.stop? = none := by
  obtain ⟨-, rfl⟩ := eq_of_stop? done
  rfl

theorem StopsAtMost.trans (first : service.StopsAtMost after) (second : after.StopsAtMost later) :
    service.StopsAtMost later := by
  rcases first with rfl | done
  · exact second
  · rcases second with rfl | again
    · exact .inr done
    · rw [stop?_of_stop? done] at again
      cases again

/-- A stop leaves all but the stage and the signal alone. -/
structure Alike (service after : Background A) : Prop where
  scale_eq : after.scale = service.scale
  agenda_eq : after.agenda = service.agenda
  runner_eq : after.runner = service.runner
  thread?_eq : after.thread? = service.thread?
  signal : service.stopRequested = true → after.stopRequested = true
  stage : service.stage ≠ .created → after.stage ≠ .created

theorem StopsAtMost.alike (stops : service.StopsAtMost after) : service.Alike after := by
  rcases stops with rfl | done
  · exact ⟨rfl, rfl, rfl, rfl, id, id⟩
  · obtain ⟨-, rfl⟩ := eq_of_stop? done
    exact ⟨rfl, rfl, rfl, rfl, fun _ => rfl, nofun⟩

end Background

/-- **What a run asks of a service with a thread comes to a stop at most.** -/
def Conduct.Orderly {A W : Type} (conduct : Conduct A W) : Prop :=
  ∀ (task : Task A) (now : Int) (service : Background A) (world : W), service.thread?.isSome →
    service.stage ≠ .created → service.StopsAtMost (conduct.finish task now (service, world)).2.1

theorem Sampler.orderly : Sampler.conduct.Orderly := fun _ _ _ _ _ _ => .inl rfl

namespace Rehearsal

open Background

variable {scene : Scene} (now : Int)

theorem stopsAtMost_stop (scene : Scene) : scene.1.StopsAtMost (stop now scene).2.1 := by
  unfold stop
  split
  · exact .refl _
  · rename_i service done
    exact .inr done

theorem schedule_of_thread (threaded : scene.1.thread?.isSome) (script : Script) :
    (schedule now script scene).2 = scene := by
  have refused : ∃ failure, register now script scene.1 = .error failure := by
    unfold register
    split
    · exact ⟨_, register_of_thread threaded ..⟩
    · unfold Background.schedule
      rw [register_of_thread threaded]
      cases (SamplingPlan.seconds script.initial).mapError Failure.arithmetic with
      | error failure => exact ⟨failure, rfl⟩
      | ok =>
        rename_i delay _ _
        cases (SamplingPlan.seconds delay).mapError Failure.arithmetic with
        | error failure => exact ⟨failure, rfl⟩
        | ok => exact ⟨_, rfl⟩
  obtain ⟨failure, refused⟩ := refused
  unfold schedule
  rw [refused]

theorem stopsAtMost_answer (threaded : scene.1.thread?.isSome) (begun : scene.1.stage ≠ .created)
    (call : ServiceCall) : scene.1.StopsAtMost (answer now scene call).2.1 := by
  cases call with
  | stop => exact stopsAtMost_stop now scene
  | start =>
    show scene.1.StopsAtMost (start now scene).2.1
    unfold start
    dsimp only
    rw [beginStart_of_not_created begun]
    exact .refl _
  | execute =>
    show scene.1.StopsAtMost (schedule now extra scene).2.1
    rw [schedule_of_thread now threaded]
    exact .refl _

theorem stopsAtMost_calls (task : String) (threaded : scene.1.thread?.isSome)
    (begun : scene.1.stage ≠ .created) (calls : List ServiceCall) :
    scene.1.StopsAtMost (calls.foldl (ask task now) scene).1 := by
  induction calls generalizing scene with
  | nil => exact .refl _
  | cons call rest ih =>
    have stops : scene.1.StopsAtMost (ask task now scene call).1 := stopsAtMost_answer now threaded begun call
    have alike := stops.alike
    refine stops.trans (ih ?_ (alike.stage begun))
    rwa [alike.thread?_eq]

theorem orderly : conduct.Orderly := by
  intro task now service rehearsal threaded begun
  exact stopsAtMost_calls now task.name threaded begun _

end Rehearsal

/-! ### Turns -/

namespace Timeline

variable {A W : Type}

/-- Whether the thread is between two runs. -/
def Between (line : Timeline A W) : Prop :=
  line.service.runner = .waiting ∨ ∃ ending, line.service.runner = .sleeping ending

/-- Whether the thread is to end when it is between two runs. -/
def Over (line : Timeline A W) : Prop := line.service.stopRequested = true ∨ line.service.agenda = []

/-- The thread goes to sleep until a task is due. -/
def sleep (line : Timeline A W) (due : Int) : Timeline A W :=
  { line with service := line.service.sleep (line.clock + line.service.scale.wait line.clock due) }

variable (conduct : Conduct A W) {line : Timeline A W} {task : Task A} {rest : Agenda A} {ending : Int}
  (limit : Int)

theorem turn?_of_running (runs : line.service.runner = .running task ending) :
    line.turn? conduct limit = if ending ≤ limit then some (line.finish conduct task ending) else none := by
  unfold turn?
  rw [runs]

theorem turn?_of_over (between : line.Between) (isOver : line.Over) :
    line.turn? conduct limit = some line.stop := by
  rcases between with waits | ⟨ending, sleeps⟩ <;> rcases isOver with signal | nothing
  · simp only [turn?, waits, signal]
  · cases signal : line.service.stopRequested <;> simp only [turn?, waits, signal, nothing]
  · simp only [turn?, sleeps, signal]
  · cases signal : line.service.stopRequested <;> simp only [turn?, sleeps, signal, nothing]

theorem turn?_of_waiting (waits : line.service.runner = .waiting)
    (goes : line.service.stopRequested = false) (next : line.service.agenda = task :: rest) :
    line.turn? conduct limit = some (if 0 < line.service.scale.wait line.clock task.due
      then line.sleep task.due else line.begin conduct line.clock task rest) := by
  simp only [turn?, waits, goes, next]
  split <;> rfl

theorem turn?_of_sleeping (sleeps : line.service.runner = .sleeping ending)
    (goes : line.service.stopRequested = false) (next : line.service.agenda = task :: rest) :
    line.turn? conduct limit =
      if ending ≤ limit then some (line.begin conduct (max line.clock ending) task rest) else none := by
  simp only [turn?, sleeps, goes, next]

theorem unfinished (goesOn : ¬ line.Over) :
    line.service.stopRequested = false ∧ ∃ task rest, line.service.agenda = task :: rest :=
  ⟨Bool.eq_false_iff.2 fun signal => goesOn (.inl signal),
    List.exists_cons_of_ne_nil fun nothing => goesOn (.inr nothing)⟩

/-- A thread that is about to look at the agenda has a turn. -/
theorem turn?_ne_none_of_waiting (waits : line.service.runner = .waiting) :
    line.turn? conduct limit ≠ none := by
  by_cases isOver : line.Over
  · rw [turn?_of_over conduct limit (.inl waits) isOver]
    nofun
  · obtain ⟨goes, task, rest, next⟩ := unfinished isOver
    rw [turn?_of_waiting conduct limit waits goes next]
    nofun

/-- A thread that sleeps has a turn when the sleep ends. -/
theorem lt_of_turn?_eq_none (sleeps : line.service.runner = .sleeping ending)
    (rests : line.turn? conduct limit = none) : limit < ending := by
  by_cases isOver : line.Over
  · rw [turn?_of_over conduct limit (.inr ⟨ending, sleeps⟩) isOver] at rests
    cases rests
  · obtain ⟨goes, task, rest, next⟩ := unfinished isOver
    rw [turn?_of_sleeping conduct limit sleeps goes next] at rests
    split at rests
    · cases rests
    · omega

/-- What a turn does, with all that holds when it does that. -/
inductive Turn (line : Timeline A W) : Timeline A W → Prop where
  | finish {task : Task A} {ending : Int} (runs : line.service.runner = .running task ending)
      (come : ending ≤ limit) : Turn line (line.finish conduct task ending)
  | stop (between : line.Between) (isOver : line.Over) : Turn line line.stop
  | sleep {task : Task A} {rest : Agenda A} (waits : line.service.runner = .waiting)
      (next : line.service.agenda = task :: rest)
      (early : 0 < line.service.scale.wait line.clock task.due) : Turn line (line.sleep task.due)
  | begin {task : Task A} {rest : Agenda A} (waits : line.service.runner = .waiting)
      (goes : line.service.stopRequested = false) (next : line.service.agenda = task :: rest)
      (due : ¬ 0 < line.service.scale.wait line.clock task.due) :
      Turn line (line.begin conduct line.clock task rest)
  | wake {task : Task A} {rest : Agenda A} {ending : Int} (sleeps : line.service.runner = .sleeping ending)
      (goes : line.service.stopRequested = false) (next : line.service.agenda = task :: rest)
      (come : ending ≤ limit) : Turn line (line.begin conduct (max line.clock ending) task rest)

/-- **What a turn can do.** -/
theorem turn_of_turn? {conduct : Conduct A W} {limit : Int} {line after : Timeline A W}
    (turns : line.turn? conduct limit = some after) : Turn conduct limit line after := by
  by_cases isOver : line.Between ∧ line.Over
  · rw [turn?_of_over conduct limit isOver.1 isOver.2] at turns
    obtain rfl := Option.some.inj turns
    exact .stop isOver.1 isOver.2
  · cases runner : line.service.runner with
    | absent =>
      unfold turn? at turns
      rw [runner] at turns
      cases turns
    | ended =>
      unfold turn? at turns
      rw [runner] at turns
      cases turns
    | running task ending =>
      rw [turn?_of_running conduct limit runner] at turns
      split at turns
      · rename_i come
        obtain rfl := Option.some.inj turns
        exact .finish runner come
      · cases turns
    | waiting =>
      obtain ⟨goes, task, rest, next⟩ := unfinished fun ends => isOver ⟨.inl runner, ends⟩
      rw [turn?_of_waiting conduct limit runner goes next] at turns
      obtain rfl := Option.some.inj turns
      split
      · rename_i early
        exact .sleep runner next early
      · rename_i due
        exact .begin runner goes next due
    | sleeping ending =>
      obtain ⟨goes, task, rest, next⟩ := unfinished fun ends => isOver ⟨.inr ⟨ending, runner⟩, ends⟩
      rw [turn?_of_sleeping conduct limit runner goes next] at turns
      split at turns
      · rename_i come
        obtain rfl := Option.some.inj turns
        exact .wake runner goes next come
      · cases turns

end Timeline

/-! ### Scenes -/

/-- What may happen to a service with a thread. -/
inductive ThreadEvent (W : Type) where
  /-- The thread has a turn, if there is one for it up to a reading of the clock. -/
  | turn (limit : Int)
  /-- Time passes up to a reading of the clock, if the thread has no turn up to it. -/
  | pass (now : Int)
  /-- A stop comes from outside. -/
  | stop
  | world (change : W → W)

/-- A service with a thread, and a log of what the thread did. -/
structure ThreadScene (A W : Type) where
  /-- The service, the clock and the world. -/
  line : Timeline A W
  runs : List (TaskRun A)
  /-- The task of the run that is under way, if one is, and when it began. -/
  current? : Option (Task A × Int)

namespace ThreadScene

variable {A W : Type}

/-- A service at the launch of its thread. -/
def launch (service : Background A) (thread : Nat) (clock : Int) (world : W) : ThreadScene A W :=
  ⟨⟨service.launch thread, clock, world⟩, [], none⟩

/-- The scene after a turn of the thread. -/
def afterTurn (scene : ThreadScene A W) (line : Timeline A W) : ThreadScene A W where
  line := line
  runs := match scene.line.service.runner with
    | .running _ _ =>
      scene.runs ++ (scene.current?.map fun (task, start) => ⟨task, start, line.clock⟩).toList
    | _ => scene.runs
  current? := match line.service.runner with
    | .running task _ => some (task, line.clock)
    | _ => none

variable (conduct : Conduct A W)

def happen (scene : ThreadScene A W) : ThreadEvent W → ThreadScene A W
  | .turn limit => ((scene.line.turn? conduct limit).map scene.afterTurn).getD scene
  | .pass now =>
    if scene.line.clock ≤ now ∧ (scene.line.turn? conduct now).isNone then
      { scene with line := { scene.line with clock := now } }
    else scene
  | .stop =>
    { scene with line := { scene.line with service := scene.line.service.stop?.getD scene.line.service } }
  | .world change => { scene with line := { scene.line with world := change scene.line.world } }

def run (scene : ThreadScene A W) (events : List (ThreadEvent W)) : ThreadScene A W :=
  events.foldl (happen conduct) scene

@[simp] theorem run_nil (scene : ThreadScene A W) : scene.run conduct [] = scene := rfl

@[simp] theorem run_cons (scene : ThreadScene A W) (first : ThreadEvent W) (rest : List (ThreadEvent W)) :
    scene.run conduct (first :: rest) = (scene.happen conduct first).run conduct rest := rfl

theorem run_append (scene : ThreadScene A W) (first second : List (ThreadEvent W)) :
    scene.run conduct (first ++ second) = (scene.run conduct first).run conduct second :=
  List.foldl_append

theorem happen_turn_of_none {scene : ThreadScene A W} {limit : Int}
    (rests : scene.line.turn? conduct limit = none) : scene.happen conduct (.turn limit) = scene := by
  show ((scene.line.turn? conduct limit).map scene.afterTurn).getD scene = scene
  rw [rests]
  rfl

theorem happen_turn_of_some {scene : ThreadScene A W} {limit : Int} {line : Timeline A W}
    (turns : scene.line.turn? conduct limit = some line) :
    scene.happen conduct (.turn limit) = scene.afterTurn line := by
  show ((scene.line.turn? conduct limit).map scene.afterTurn).getD scene = _
  rw [turns]
  rfl

/-- **The turns of a timeline are a run of turns.** -/
theorem line_run_turns (scene : ThreadScene A W) (limit : Int) (bound : Nat) :
    (scene.run conduct (List.replicate bound (.turn limit))).line =
      scene.line.turns conduct limit bound := by
  induction bound generalizing scene with
  | zero => rfl
  | succ bound ih =>
    rw [List.replicate_succ, run_cons, ih]
    cases turns : scene.line.turn? conduct limit with
    | none =>
      rw [happen_turn_of_none conduct turns, Timeline.turns, turns]
      cases bound with
      | zero => rfl
      | succ bound => rw [Timeline.turns, turns]
    | some next =>
      rw [happen_turn_of_some conduct turns, Timeline.turns, turns]
      rfl

end ThreadScene

end HostWatch
