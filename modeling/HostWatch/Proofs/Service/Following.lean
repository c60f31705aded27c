/-
**A thread that follows a roster.**

The agenda of a service and the task whose run is under way are the tasks that a roster has still to run, and
what the thread is doing agrees with when the next one of them starts. Whatever happens, this stays so.

* `ThreadScene.Follows`: **the invariant**, with `ThreadScene.Stands` for what the thread is doing.
* `ThreadScene.Follows.afterTurn`: what is left to show of a turn between two runs.
* `ThreadScene.Follows.finish`: **the end of a run**, which the roster makes as well.
* `ThreadScene.Follows.happen`, `follows_run`: every event keeps the invariant, and so does every run.
-/

import HostWatch.Proofs.Service.Thread

namespace HostWatch

/-- The tasks that a service has: the one whose run is under way, and those of its agenda. -/
def Background.held {A : Type} (service : Background A) : List (Task A) :=
  match service.runner with
  | .running task _ => task :: service.agenda
  | _ => service.agenda

namespace ThreadScene

variable {A W : Type}

def endings (scene : ThreadScene A W) : List Int := scene.runs.map TaskRun.ending

/-- The tasks whose runs began, each with the reading of the clock when it did. -/
def begun (scene : ThreadScene A W) : List (Task A × Int) :=
  scene.runs.map (fun run => (run.task, run.start)) ++ scene.current?.toList

/-- What the thread is doing agrees with what is left on a roster. -/
def Stands (scene : ThreadScene A W) (scale : TimeScale) (left : Roster A) : Runner A → Prop
  | .absent => False
  | .waiting => scene.current? = none ∧ scene.line.clock = left.free
  | .sleeping ending => scene.current? = none ∧ scene.line.clock ≤ ending ∧
    ∃ task rest, scene.line.service.agenda = task :: rest ∧ ending = scale.startAt left.free task.due
  | .running task _ => scene.current? = some (task, scale.startAt left.free task.due) ∧
    scale.startAt left.free task.due ≤ scene.line.clock ∧ left.next? = some task
  | .ended => scene.current? = none ∧ scene.line.Over

/-- **The invariant**: a service with a thread, and what is left on the roster that the thread keeps to. -/
structure Follows (scale : TimeScale) (roster : Roster A) (scene : ThreadScene A W) : Prop where
  scale_eq : scene.line.service.scale = scale
  threaded : scene.line.service.thread?.isSome
  started : scene.line.service.stage ≠ .created
  ordered : scene.line.service.agenda.Ordered
  runs_eq : scene.runs = roster.runs scale scene.endings
  forward : ∀ run ∈ scene.runs, run.start ≤ run.ending
  held_perm : scene.line.service.held.Perm (roster.after scale scene.endings).pending
  stands : scene.Stands scale (roster.after scale scene.endings) scene.line.service.runner

theorem follows_launch {service : Background A} {tasks : List (Task A)} (ready : ReadyFor service tasks)
    (started : service.stage ≠ .created) (thread : Nat) (clock : Int) (world : W) :
    (launch service thread clock world).Follows service.scale ⟨tasks, clock⟩ :=
  ⟨rfl, rfl, started, ready.ordered, rfl, nofun, ready.perm, rfl, rfl⟩

section Turns

variable {scale : TimeScale} {roster : Roster A} {scene : ThreadScene A W} {task : Task A} {rest : Agenda A}

/-! ### Turns -/

theorem held_of_between (between : scene.line.Between) :
    scene.line.service.held = scene.line.service.agenda := by
  unfold Background.held
  rcases between with waits | ⟨ending, sleeps⟩
  · rw [waits]
  · rw [sleeps]

theorem runs_afterTurn_of_between (between : scene.line.Between) (line : Timeline A W) :
    (scene.afterTurn line).runs = scene.runs := by
  unfold afterTurn
  rcases between with waits | ⟨ending, sleeps⟩
  · rw [waits]
  · rw [sleeps]

theorem endings_afterTurn_of_between (between : scene.line.Between) (line : Timeline A W) :
    (scene.afterTurn line).endings = scene.endings :=
  congrArg (List.map _) (runs_afterTurn_of_between between line)

/-- The turn at the end of a run enters it into the log. -/
theorem runs_afterTurn_of_running {ending start : Int}
    (runs : scene.line.service.runner = .running task ending)
    (current : scene.current? = some (task, start)) (line : Timeline A W) :
    (scene.afterTurn line).runs = scene.runs ++ [⟨task, start, line.clock⟩] := by
  unfold afterTurn
  rw [runs, current]
  rfl

/-- Between two runs none is under way. -/
theorem Follows.current?_of_between (follows : scene.Follows scale roster) (between : scene.line.Between) :
    scene.current? = none := by
  have stands := follows.stands
  rcases between with waits | ⟨ending, sleeps⟩
  · rw [waits] at stands
    exact stands.1
  · rw [sleeps] at stands
    exact stands.1

/-- Between two runs the task in front of the agenda is next on the roster. -/
theorem Follows.next? (follows : scene.Follows scale roster) (distinct : roster.Distinct)
    (between : scene.line.Between) (next : scene.line.service.agenda = task :: rest) :
    (roster.after scale scene.endings).next? = some task := by
  have perm := follows.held_perm
  have ordered := follows.ordered
  rw [held_of_between between, next] at perm
  rw [next] at ordered
  exact Roster.next?_eq_some perm.symm ordered (Roster.distinct_after scale distinct _)

/-- A task that is due when the thread looks at it starts at once. -/
theorem Follows.startAt_eq (follows : scene.Follows scale roster)
    (waits : scene.line.service.runner = .waiting)
    (due : ¬ 0 < scene.line.service.scale.wait scene.line.clock task.due) :
    scale.startAt (roster.after scale scene.endings).free task.due = scene.line.clock := by
  have stands := follows.stands
  rw [waits] at stands
  rw [follows.scale_eq, stands.2] at due
  unfold TimeScale.startAt
  rw [if_neg due, stands.2]

/-- A turn between two runs leaves the log of the runs that ended alone. -/
theorem Follows.afterTurn (follows : scene.Follows scale roster) (between : scene.line.Between)
    {line : Timeline A W} (scale_eq : line.service.scale = scene.line.service.scale)
    (thread?_eq : line.service.thread? = scene.line.service.thread?)
    (stage_eq : line.service.stage = scene.line.service.stage) (ordered : line.service.agenda.Ordered)
    (held_eq : line.service.held = scene.line.service.agenda)
    (stands : (scene.afterTurn line).Stands scale (roster.after scale scene.endings) line.service.runner) :
    (scene.afterTurn line).Follows scale roster where
  scale_eq := scale_eq.trans follows.scale_eq
  threaded := by
    show line.service.thread?.isSome
    rw [thread?_eq]
    exact follows.threaded
  started := by
    show line.service.stage ≠ .created
    rw [stage_eq]
    exact follows.started
  ordered := ordered
  runs_eq := by
    rw [endings_afterTurn_of_between between, runs_afterTurn_of_between between]
    exact follows.runs_eq
  forward := by
    rw [runs_afterTurn_of_between between]
    exact follows.forward
  held_perm := by
    have perm := follows.held_perm
    rw [held_of_between between, ← held_eq] at perm
    rw [endings_afterTurn_of_between between]
    exact perm
  stands := by
    rw [endings_afterTurn_of_between between]
    exact stands

theorem Follows.stop (follows : scene.Follows scale roster) (between : scene.line.Between)
    (isOver : scene.line.Over) : (scene.afterTurn scene.line.stop).Follows scale roster :=
  follows.afterTurn between rfl rfl rfl follows.ordered rfl ⟨rfl, isOver⟩

theorem Follows.sleep (follows : scene.Follows scale roster) (waits : scene.line.service.runner = .waiting)
    (next : scene.line.service.agenda = task :: rest)
    (early : 0 < scene.line.service.scale.wait scene.line.clock task.due) :
    (scene.afterTurn (scene.line.sleep task.due)).Follows scale roster := by
  have stands := follows.stands
  rw [waits] at stands
  refine follows.afterTurn (.inl waits) rfl rfl rfl follows.ordered rfl ⟨rfl, ?_, task, rest, next, ?_⟩
  · show scene.line.clock ≤ scene.line.clock + _
    omega
  · show scene.line.clock + _ = _
    rw [follows.scale_eq] at early ⊢
    unfold TimeScale.startAt
    rw [← stands.2, if_pos early]

theorem Follows.begin (conduct : Conduct A W) (follows : scene.Follows scale roster)
    (distinct : roster.Distinct) (between : scene.line.Between)
    (next : scene.line.service.agenda = task :: rest) :
    (scene.afterTurn (scene.line.begin conduct
      (scale.startAt (roster.after scale scene.endings).free task.due) task rest)).Follows scale roster := by
  have ordered := follows.ordered
  rw [next] at ordered
  refine follows.afterTurn between rfl rfl rfl (List.pairwise_cons.1 ordered).2 next.symm ?_
  exact ⟨rfl, Int.le_refl _, follows.next? distinct between next⟩

theorem agenda_conclude_perm (service : Background A) (task : Task A) (now : Int) :
    (service.conclude task now).agenda.Perm ((task.again? service.scale now).toList ++ service.agenda) := by
  unfold Background.conclude Task.again?
  cases task.delay? with
  | none => exact .refl _
  | some delay => exact Agenda.insert_perm ..

theorem ordered_conclude {service : Background A} (ordered : service.agenda.Ordered) (task : Task A)
    (now : Int) : (service.conclude task now).agenda.Ordered := by
  unfold Background.conclude
  cases task.delay? with
  | none => exact ordered
  | some delay => exact Agenda.insert_ordered _ _ ordered

/-- **The run of a task ends.** -/
theorem Follows.finish {conduct : Conduct A W} (orderly : conduct.Orderly)
    (follows : scene.Follows scale roster) (distinct : roster.Distinct) {ending : Int}
    (runs : scene.line.service.runner = .running task ending) :
    (scene.afterTurn (scene.line.finish conduct task ending)).Follows scale roster := by
  have alike := (orderly task (max scene.line.clock ending) scene.line.service scene.line.world
    follows.threaded follows.started).alike
  obtain ⟨scale_eq, threaded, started, ordered, runs_eq, forward, held_perm, stands⟩ := follows
  rw [runs] at stands
  obtain ⟨current, begun, next⟩ := stands
  -- The run is entered into the log, and the roster makes the same run.
  have logged := runs_afterTurn_of_running runs current (scene.line.finish conduct task ending)
  have endings_eq : (scene.afterTurn (scene.line.finish conduct task ending)).endings =
      scene.endings ++ [max scene.line.clock ending] := by
    unfold endings
    rw [logged, List.map_append]
    rfl
  have left := Roster.after_append scale roster scene.endings [max scene.line.clock ending]
  rw [Roster.after_singleton scale next, ← endings_eq] at left
  refine ⟨alike.scale_eq.trans scale_eq, ?_, alike.stage started, ?_, ?_, ?_, ?_, ?_⟩
  · exact (congrArg Option.isSome alike.thread?_eq).trans threaded
  · refine ordered_conclude ?_ task _
    rw [alike.agenda_eq]
    exact ordered
  · rw [logged, endings_eq, Roster.runs_append, Roster.runs_singleton scale next, ← runs_eq]
    rfl
  · rw [logged]
    refine List.forall_mem_append.2 ⟨forward, List.forall_mem_singleton.2 ?_⟩
    exact Int.le_trans begun (Int.le_max_left ..)
  -- The agenda takes the task back just when the roster does.
  · rw [left]
    have held : scene.line.service.held = task :: scene.line.service.agenda := by
      unfold Background.held
      rw [runs]
    rw [held] at held_perm
    refine (agenda_conclude_perm _ task _).trans ?_
    rw [alike.agenda_eq, alike.scale_eq, scale_eq]
    exact (Roster.pending_complete_perm scale _ held_perm.symm (Roster.distinct_after scale distinct _)).symm
  · rw [left]
    exact ⟨rfl, rfl⟩

/-- **Every turn keeps the invariant.** -/
theorem Follows.turn {conduct : Conduct A W} (orderly : conduct.Orderly)
    (follows : scene.Follows scale roster) (distinct : roster.Distinct) {limit : Int} {line : Timeline A W}
    (turn : Timeline.Turn conduct limit scene.line line) : (scene.afterTurn line).Follows scale roster := by
  have stands := follows.stands
  cases turn with
  | finish runs come => exact follows.finish orderly distinct runs
  | stop between isOver => exact follows.stop between isOver
  | sleep waits next early => exact follows.sleep waits next early
  | @begin task rest waits goes next due =>
    rw [← follows.startAt_eq waits due]
    exact follows.begin conduct distinct (.inl waits) next
  | @wake task rest ending sleeps goes next come =>
    -- The clock has not passed the end of the sleep, so the task begins exactly then.
    rw [sleeps] at stands
    obtain ⟨-, le, first, others, agenda_eq, start⟩ := stands
    rw [next] at agenda_eq
    obtain ⟨rfl, -⟩ := List.cons.inj agenda_eq
    rw [Int.max_eq_right le, start]
    exact follows.begin conduct distinct (.inr ⟨ending, sleeps⟩) next

end Turns

/-! ### Events and runs -/

section Events

variable {scale : TimeScale} {roster : Roster A} {scene : ThreadScene A W}

theorem Follows.alike (follows : scene.Follows scale roster) {after : Background A}
    (alike : scene.line.service.Alike after) :
    ({ scene with line := { scene.line with service := after } } : ThreadScene A W).Follows scale roster := by
  obtain ⟨scale_eq, threaded, started, ordered, runs_eq, forward, held_perm, stands⟩ := follows
  refine ⟨alike.scale_eq.trans scale_eq, ?_, alike.stage started, ?_, runs_eq, forward, ?_, ?_⟩
  · exact (congrArg Option.isSome alike.thread?_eq).trans threaded
  · exact alike.agenda_eq ▸ ordered
  · have held : after.held = scene.line.service.held := by
      unfold Background.held
      rw [alike.runner_eq, alike.agenda_eq]
    exact held ▸ held_perm
  · show Stands _ scale _ after.runner
    rw [alike.runner_eq]
    cases runner : scene.line.service.runner with
    | sleeping ending =>
      rw [runner] at stands
      obtain ⟨none, le, task, rest, next, start⟩ := stands
      exact ⟨none, le, task, rest, alike.agenda_eq.trans next, start⟩
    | ended =>
      rw [runner] at stands
      exact ⟨stands.1, stands.2.imp alike.signal alike.agenda_eq.trans⟩
    | _ =>
      rw [runner] at stands
      exact stands

/-- Time passes up to a reading of the clock up to which the thread has no turn. -/
theorem Follows.pass {conduct : Conduct A W} (follows : scene.Follows scale roster) {now : Int}
    (later : scene.line.clock ≤ now) (rests : scene.line.turn? conduct now = none) :
    ({ scene with line := { scene.line with clock := now } } : ThreadScene A W).Follows scale roster := by
  obtain ⟨scale_eq, threaded, started, ordered, runs_eq, forward, held_perm, stands⟩ := follows
  refine ⟨scale_eq, threaded, started, ordered, runs_eq, forward, held_perm, ?_⟩
  show Stands _ scale _ scene.line.service.runner
  cases runner : scene.line.service.runner with
  | absent =>
    rw [runner] at stands
    exact stands
  -- No time passes while the thread is about to look at the agenda: it has a turn then.
  | waiting => exact absurd rests (Timeline.turn?_ne_none_of_waiting conduct now runner)
  | sleeping ending =>
    rw [runner] at stands
    exact ⟨stands.1, Int.le_of_lt (Timeline.lt_of_turn?_eq_none conduct now runner rests), stands.2.2⟩
  | running task ending =>
    rw [runner] at stands
    exact ⟨stands.1, Int.le_trans stands.2.1 later, stands.2.2⟩
  | ended =>
    rw [runner] at stands
    exact stands

/-- **Every event keeps the invariant.** -/
theorem Follows.happen {conduct : Conduct A W} (orderly : conduct.Orderly)
    (follows : scene.Follows scale roster) (distinct : roster.Distinct) (event : ThreadEvent W) :
    (scene.happen conduct event).Follows scale roster := by
  cases event with
  | turn limit =>
    cases turns : scene.line.turn? conduct limit with
    | none => rwa [happen_turn_of_none conduct turns]
    | some line =>
      rw [happen_turn_of_some conduct turns]
      exact follows.turn orderly distinct (Timeline.turn_of_turn? turns)
  | pass now =>
    unfold ThreadScene.happen
    dsimp only
    split
    · rename_i passes
      exact follows.pass passes.1 (Option.isNone_iff_eq_none.1 passes.2)
    · exact follows
  | stop => exact follows.alike (Background.stopsAtMost_stop? _).alike
  | world change =>
    obtain ⟨scale_eq, threaded, started, ordered, runs_eq, forward, held_perm, stands⟩ := follows
    exact ⟨scale_eq, threaded, started, ordered, runs_eq, forward, held_perm, stands⟩

/-- **Every run keeps the invariant.** -/
theorem follows_run {conduct : Conduct A W} (orderly : conduct.Orderly)
    (follows : scene.Follows scale roster) (distinct : roster.Distinct) (events : List (ThreadEvent W)) :
    (scene.run conduct events).Follows scale roster := by
  induction events generalizing scene with
  | nil => exact follows
  | cons first rest ih => exact ih (follows.happen orderly distinct first)

end Events

end ThreadScene

end HostWatch
