/-
**The thread keeps to the roster.**

Whatever happens to a service with a thread, the runs of the thread are those of a roster with the tasks that
were registered before: the thread takes the task that comes first, sleeps until it is due, and puts it back
when its run has ended, well or not, and it is to run again.

* `ThreadScene.Follows.begun_run`: a thread that was signalled to stop begins nothing more.
* `ThreadScene.Follows.begins`, `ends`: **what a thread that was not signalled comes to do.**
* `ThreadScene.KeepsTo`, `run_keepsTo`: **what all of it comes to** for a service that was prepared and then
  launched. The scale is any one; where a start is said to be at the due time it is a sharp one, such as that of
  rounded sums (`TimeScale.sharp_binaryMoments`).
-/

import HostWatch.Proofs.Service.Following

namespace HostWatch

namespace ThreadScene

variable {A W : Type}

section Events

variable {scale : TimeScale} {roster : Roster A} {scene : ThreadScene A W}

/-! ### A thread that was signalled to stop -/

/-- A turn between two runs that begins nothing. -/
theorem begun_afterTurn_of_between (between : scene.line.Between) (idle : scene.current? = none)
    {line : Timeline A W} (still : (scene.afterTurn line).current? = none) :
    (scene.afterTurn line).begun = scene.begun := by
  unfold begun
  rw [runs_afterTurn_of_between between, idle, still]

/-- A turn of a thread that was signalled begins nothing. -/
theorem Follows.begun_turn {conduct : Conduct A W} (orderly : conduct.Orderly)
    (follows : scene.Follows scale roster) (signal : scene.line.service.stopRequested = true) {limit : Int}
    {line : Timeline A W} (turn : Timeline.Turn conduct limit scene.line line) :
    (scene.afterTurn line).begun = scene.begun ∧ line.service.stopRequested = true := by
  have stands := follows.stands
  cases turn with
  | @finish task ending runs come =>
    rw [runs] at stands
    have alike := (orderly task (max scene.line.clock ending) scene.line.service scene.line.world
      follows.threaded follows.started).alike
    refine ⟨?_, alike.signal signal⟩
    unfold begun
    rw [runs_afterTurn_of_running runs stands.1, stands.1, List.map_append]
    exact List.append_nil _
  | stop between isOver =>
    exact ⟨begun_afterTurn_of_between between (follows.current?_of_between between) rfl, signal⟩
  | sleep waits next early =>
    have idle := follows.current?_of_between (.inl waits)
    exact ⟨begun_afterTurn_of_between (.inl waits) idle rfl, signal⟩
  | begin waits goes =>
    rw [signal] at goes
    cases goes
  | wake sleeps goes =>
    rw [signal] at goes
    cases goes

theorem Follows.begun_happen {conduct : Conduct A W} (orderly : conduct.Orderly)
    (follows : scene.Follows scale roster) (signal : scene.line.service.stopRequested = true)
    (event : ThreadEvent W) :
    (scene.happen conduct event).begun = scene.begun ∧
      (scene.happen conduct event).line.service.stopRequested = true := by
  cases event with
  | turn limit =>
    cases turns : scene.line.turn? conduct limit with
    | none =>
      rw [happen_turn_of_none conduct turns]
      exact ⟨rfl, signal⟩
    | some line =>
      rw [happen_turn_of_some conduct turns]
      exact follows.begun_turn orderly signal (Timeline.turn_of_turn? turns)
  | pass now =>
    unfold ThreadScene.happen
    dsimp only
    split
    · exact ⟨rfl, signal⟩
    · exact ⟨rfl, signal⟩
  | stop => exact ⟨rfl, (Background.stopsAtMost_stop? _).alike.signal signal⟩
  | world change => exact ⟨rfl, signal⟩

/-- **A thread that was signalled to stop begins nothing more**, whatever happens. -/
theorem Follows.begun_run {conduct : Conduct A W} (orderly : conduct.Orderly)
    (follows : scene.Follows scale roster) (distinct : roster.Distinct)
    (signal : scene.line.service.stopRequested = true) (events : List (ThreadEvent W)) :
    (scene.run conduct events).begun = scene.begun := by
  induction events generalizing scene with
  | nil => rfl
  | cons first rest ih =>
    obtain ⟨same, signal⟩ := follows.begun_happen orderly signal first
    exact (ih (follows.happen orderly distinct first) signal).trans same

/-! ### What a thread comes to do -/

/-- The run that is under way, in the log and by the service. -/
theorem Follows.current?_eq_some_iff (follows : scene.Follows scale roster) (task : Task A) :
    (∃ start, scene.current? = some (task, start)) ↔
      ∃ ending, scene.line.service.runner = .running task ending := by
  have stands := follows.stands
  cases runner : scene.line.service.runner with
  | absent =>
    rw [runner] at stands
    exact stands.elim
  | running other ending =>
    rw [runner] at stands
    rw [stands.1]
    constructor
    · rintro ⟨start, is⟩
      obtain ⟨rfl, -⟩ := Prod.mk.inj (Option.some.inj is)
      exact ⟨ending, rfl⟩
    · rintro ⟨ending, is⟩
      obtain ⟨rfl, -⟩ := Runner.running.inj is
      exact ⟨_, rfl⟩
  | _ =>
    rw [runner] at stands
    rw [stands.1]
    exact iff_of_false (by rintro ⟨_, ⟨⟩⟩) (by rintro ⟨_, ⟨⟩⟩)

/-- The run that is under way is the next one of the roster. -/
theorem Follows.next?_of_current? (follows : scene.Follows scale roster) {task : Task A} {start : Int}
    (current : scene.current? = some (task, start)) :
    (roster.after scale scene.endings).next? = some task ∧
      start = scale.startAt (roster.after scale scene.endings).free task.due := by
  obtain ⟨ending, runs⟩ := (follows.current?_eq_some_iff task).1 ⟨start, current⟩
  have stands := follows.stands
  rw [runs] at stands
  obtain ⟨is, -, next⟩ := stands
  rw [current] at is
  exact ⟨next, (Prod.mk.inj (Option.some.inj is)).2⟩

/-- The runs that began are runs of the roster, whenever the one that is under way will end. -/
theorem Follows.begun_eq (follows : scene.Follows scale roster) (ending : Int) :
    scene.begun = (roster.runs scale (scene.endings ++ (scene.current?.map fun _ => ending).toList)).map
      fun run => (run.task, run.start) := by
  unfold begun
  cases current : scene.current? with
  | none =>
    show _ = (roster.runs scale (scene.endings ++ [])).map _
    rw [List.append_nil, ← follows.runs_eq]
    exact List.append_nil _
  | some run =>
    obtain ⟨next, start_eq⟩ := follows.next?_of_current? current
    show _ = (roster.runs scale (scene.endings ++ [ending])).map _
    rw [Roster.runs_append, Roster.runs_singleton scale next, ← follows.runs_eq, List.map_append, ← start_eq]
    rfl

theorem begun_begin (conduct : Conduct A W) (between : scene.line.Between) (idle : scene.current? = none)
    (start : Int) (task : Task A) (rest : Agenda A) :
    (scene.afterTurn (scene.line.begin conduct start task rest)).begun = scene.begun ++ [(task, start)] := by
  unfold begun
  rw [runs_afterTurn_of_between between, idle, List.append_assoc]
  rfl

/-- A thread that sleeps begins the next task when the sleep ends. -/
theorem Follows.begins_of_sleeping (conduct : Conduct A W) (follows : scene.Follows scale roster)
    (goes : scene.line.service.stopRequested = false) {ending : Int}
    (sleeps : scene.line.service.runner = .sleeping ending) {task : Task A} {rest : Agenda A}
    (next : scene.line.service.agenda = task :: rest) (limit : Int)
    (come : scale.startAt (roster.after scale scene.endings).free task.due ≤ limit) :
    (scene.happen conduct (.turn limit)).begun =
      scene.begun ++ [(task, scale.startAt (roster.after scale scene.endings).free task.due)] := by
  have stands := follows.stands
  rw [sleeps] at stands
  obtain ⟨idle, le, first, others, agenda_eq, start⟩ := stands
  rw [next] at agenda_eq
  obtain ⟨rfl, -⟩ := List.cons.inj agenda_eq
  rw [← start] at come ⊢
  have turns := Timeline.turn?_of_sleeping conduct limit sleeps goes next
  rw [if_pos come, Int.max_eq_right le] at turns
  rw [happen_turn_of_some conduct turns]
  exact begun_begin conduct (.inr ⟨ending, sleeps⟩) idle _ _ _

/-- A thread that is not stopped and has a task to run is between two runs, with the next task in front. -/
theorem Follows.between_of_pending (follows : scene.Follows scale roster) (distinct : roster.Distinct)
    (goes : scene.line.service.stopRequested = false) (idle : scene.current? = none)
    (more : (roster.after scale scene.endings).pending ≠ []) :
    scene.line.Between ∧ ∃ task rest, scene.line.service.agenda = task :: rest ∧
      (roster.after scale scene.endings).next? = some task := by
  have stands := follows.stands
  have held : scene.line.service.held = scene.line.service.agenda := by
    unfold Background.held
    cases runner : scene.line.service.runner with
    | running other ending =>
      obtain ⟨start, current⟩ := (follows.current?_eq_some_iff other).2 ⟨ending, runner⟩
      rw [idle] at current
      cases current
    | _ => rfl
  have full : scene.line.service.agenda ≠ [] := by
    intro nothing
    have perm := follows.held_perm
    rw [held, nothing] at perm
    exact more perm.nil_eq.symm
  have between : scene.line.Between := by
    cases runner : scene.line.service.runner with
    | absent =>
      rw [runner] at stands
      exact stands.elim
    | waiting => exact .inl runner
    | sleeping ending => exact .inr ⟨ending, runner⟩
    | running other ending =>
      rw [runner, Stands, idle] at stands
      cases stands.1
    -- A thread that ended was signalled, or had nothing to run; neither is so.
    | ended =>
      rw [runner] at stands
      rcases stands.2 with signal | nothing
      · rw [goes] at signal
        cases signal
      · exact absurd nothing full
  obtain ⟨task, rest, agenda_eq⟩ := List.exists_cons_of_ne_nil full
  exact ⟨between, task, rest, agenda_eq, follows.next? distinct between agenda_eq⟩

/-- **A thread that is not stopped begins the next task of the roster** as soon as that is possible. -/
theorem Follows.begins (conduct : Conduct A W) (follows : scene.Follows scale roster)
    (distinct : roster.Distinct) (goes : scene.line.service.stopRequested = false)
    (idle : scene.current? = none) (more : (roster.after scale scene.endings).pending ≠ []) :
    ∃ task, (roster.after scale scene.endings).next? = some task ∧
      ∀ limit, scale.startAt (roster.after scale scene.endings).free task.due ≤ limit →
      ∃ turns, (scene.run conduct (List.replicate turns (.turn limit))).begun =
        scene.begun ++ [(task, scale.startAt (roster.after scale scene.endings).free task.due)] := by
  obtain ⟨between, task, rest, agenda_eq, next⟩ := follows.between_of_pending distinct goes idle more
  refine ⟨task, next, fun limit come => ?_⟩
  rcases between with waits | ⟨ending, sleeps⟩
  · have turns := Timeline.turn?_of_waiting conduct limit waits goes agenda_eq
    split at turns
    · rename_i early
      -- The thread sleeps first, and that begins nothing.
      have ends : (scene.afterTurn (scene.line.sleep task.due)).endings = scene.endings :=
        endings_afterTurn_of_between (.inl waits) _
      have begins := (follows.sleep waits agenda_eq early).begins_of_sleeping conduct goes rfl agenda_eq limit
      rw [ends, begun_afterTurn_of_between (.inl waits) idle rfl] at begins
      refine ⟨2, ?_⟩
      show ((scene.happen conduct (.turn limit)).happen conduct (.turn limit)).begun = _
      rw [happen_turn_of_some conduct turns, begins come]
    · rename_i due
      refine ⟨1, ?_⟩
      show (scene.happen conduct (.turn limit)).begun = _
      rw [happen_turn_of_some conduct turns, begun_begin conduct (.inl waits) idle,
        follows.startAt_eq waits due]
  · exact ⟨1, follows.begins_of_sleeping conduct goes sleeps agenda_eq limit come⟩

/-- **A run that is under way ends** when its time has come. -/
theorem ends (conduct : Conduct A W) {task : Task A} {start ending limit : Int}
    (current : scene.current? = some (task, start))
    (runs : scene.line.service.runner = .running task ending) (come : ending ≤ limit) :
    (scene.run conduct [.turn limit]).runs =
      scene.runs ++ [⟨task, start, max scene.line.clock ending⟩] := by
  have turns := Timeline.turn?_of_running conduct limit runs
  rw [if_pos come] at turns
  rw [run_cons, happen_turn_of_some conduct turns]
  exact runs_afterTurn_of_running runs current _

end Events

/-! ### Services that are prepared and launched -/

/-- **A thread that keeps to a roster**, with all that this comes to. -/
structure KeepsTo (conduct : Conduct A W) (scale : TimeScale) (roster : Roster A)
    (scene : ThreadScene A W) : Prop where
  /-- The runs are those of the roster: each is of the task that comes first by its due time and then its
  number, and a task with a delay is put back when its run ends. -/
  runs_eq : scene.runs = roster.runs scale scene.endings
  /-- No two runs overlap, and each starts when its wait ends, or at once when there is none. -/
  sequential : Sequential scale.startAt roster.free scene.runs
  /-- When waits end exactly then, that is when its task is due, or when the run in front of it ended if that
  is later. -/
  sharp : scale.Sharp → Sequential (fun free due => max free (scale.reading due)) roster.free scene.runs
  /-- The run that is under way is the next one of the roster, and started in the same way. -/
  current : ∀ task start, scene.current? = some (task, start) →
    (roster.after scale scene.endings).next? = some task ∧
      start = scale.startAt (roster.after scale scene.endings).free task.due
  /-- It is the one that the thread is busy with. -/
  current?_iff : ∀ task, (∃ start, scene.current? = some (task, start)) ↔
    ∃ ending, scene.line.service.runner = .running task ending
  /-- No task is lost that is still to run, and none is there twice. -/
  held_perm : scene.line.service.held.Perm (roster.after scale scene.endings).pending
  distinct : (scene.line.service.held.map Task.number).Nodup
  /-- A task that runs once began at most once. -/
  once : ∀ task ∈ roster.pending, task.delay? = none →
    (scene.begun.map fun run => run.1.number).count task.number ≤ 1
  /-- Once the thread was signalled to stop it begins nothing more, whatever happens. -/
  stopped : scene.line.service.stopRequested = true → ∀ later, (scene.run conduct later).begun = scene.begun
  /-- It ends only when it was signalled, or when nothing is to run. -/
  ended : scene.line.service.runner = .ended →
    scene.line.service.stopRequested = true ∨ (roster.after scale scene.endings).pending = []
  /-- Unless it was signalled, it begins the next task of the roster as soon as that can start. -/
  begins : scene.line.service.stopRequested = false → scene.current? = none →
    (roster.after scale scene.endings).pending ≠ [] →
    ∃ task, (roster.after scale scene.endings).next? = some task ∧
      ∀ limit, scale.startAt (roster.after scale scene.endings).free task.due ≤ limit →
      ∃ turns, (scene.run conduct (List.replicate turns (.turn limit))).begun =
        scene.begun ++ [(task, scale.startAt (roster.after scale scene.endings).free task.due)]
  /-- A run that is under way ends when its time has come. -/
  ends : ∀ task start ending, scene.current? = some (task, start) →
    scene.line.service.runner = .running task ending → ∀ limit, ending ≤ limit →
    (scene.run conduct [.turn limit]).runs = scene.runs ++ [⟨task, start, max scene.line.clock ending⟩]

theorem Follows.keepsTo {conduct : Conduct A W} (orderly : conduct.Orderly) {scale : TimeScale}
    {roster : Roster A} {scene : ThreadScene A W} (follows : scene.Follows scale roster)
    (distinct : roster.Distinct) : scene.KeepsTo conduct scale roster := by
  have sequential : Sequential scale.startAt roster.free scene.runs := by
    have forward := follows.forward
    rw [follows.runs_eq] at forward ⊢
    exact Roster.sequential_runs scale forward
  refine ⟨follows.runs_eq, sequential, fun sharp => sharp.startAt_eq ▸ sequential,
    fun task start => follows.next?_of_current?, follows.current?_eq_some_iff, follows.held_perm, ?_, ?_,
    follows.begun_run orderly distinct, fun ended => ?_, follows.begins conduct distinct,
    fun task start ending current runs limit => ends conduct current runs⟩
  · exact (follows.held_perm.map Task.number).nodup_iff.2 (Roster.distinct_after scale distinct _)
  · intro task member once
    rw [follows.begun_eq 0, List.map_map]
    exact Roster.count_runs_le scale distinct member once _
  · have stands := follows.stands
    rw [ended] at stands
    refine stands.2.imp_right fun nothing => ?_
    have perm := follows.held_perm
    unfold Background.held at perm
    rw [ended, nothing] at perm
    exact perm.nil_eq.symm

/-- **The thread of every service keeps to a roster** of the tasks that were registered before, whatever
happens to it, how long the runs take and how they end. -/
theorem run_keepsTo {conduct : Conduct A W} (orderly : conduct.Orderly) {service : Background A}
    {tasks : List (Task A)} (prepared : Prepared service tasks) (started : service.stage ≠ .created)
    (thread : Nat) (clock : Int) (world : W) (events : List (ThreadEvent W)) :
    ((launch service thread clock world).run conduct events).KeepsTo conduct service.scale
      ⟨tasks, clock⟩ := by
  have ready := prepared.readyFor
  have launched := follows_launch ready started thread clock world
  exact (follows_run orderly launched ready.distinct events).keepsTo orderly ready.distinct

/-- A task that takes seven milliseconds, and fails then. -/
def failing (name : String) (delay? : Option Int) : Script :=
  ⟨name, delay?, 0, [⟨7, [], some ⟨"RuntimeError", [.text "boom"], []⟩⟩]⟩

/-- A service with two such tasks: one runs again and again, the other one once. -/
def ticker : Background Script :=
  { Background.of .exact "Ticker" with
    stage := .running
    agenda := [⟨0, 0, "poll", some 10, failing "poll" (some 10)⟩, ⟨5, 1, "once", none, failing "once" none⟩]
    nextNumber := 2 }

theorem prepared_ticker : Prepared ticker ticker.agenda :=
  .register "once" (failing "once" none) 5 none
    (.register "poll" (failing "poll" (some 10)) 0 (some 10) (.beginStart (.of .exact "Ticker") rfl) rfl) rfl

theorem run_keepsTo_ticker :
    Rehearsal.conduct.Orderly ∧ Prepared ticker ticker.agenda ∧ ticker.stage ≠ .created ∧
      ((launch ticker 1 0 ⟨[], [], none, 2, [], []⟩).run Rehearsal.conduct
        (List.replicate 12 (.turn 40))).KeepsTo Rehearsal.conduct .exact ⟨ticker.agenda, 0⟩ ∧
      ((launch ticker 1 0 ⟨[], [], none, 2, [], []⟩).run Rehearsal.conduct
        (List.replicate 12 (.turn 40))).begun.map (fun run => (run.1.name, run.2)) =
          [("poll", 0), ("once", 7), ("poll", 17), ("poll", 34)] := by
  have started : ticker.stage ≠ .created := nofun
  exact ⟨Rehearsal.orderly, prepared_ticker, started,
    run_keepsTo Rehearsal.orderly prepared_ticker started 1 0 _ _, by decide⟩

end ThreadScene

end HostWatch
