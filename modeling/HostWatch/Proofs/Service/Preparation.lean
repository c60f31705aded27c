/-
**How a service is prepared.**

Tasks are registered for a service before its thread is launched. A start may fail meanwhile, which drops the
tasks, and a stop may come early.

* `Prepared`: **a service before its thread is launched**, with the tasks that were registered for it.
* `Prepared.readyFor`: the agenda of such a service has these tasks, in order and each with its own number.
* `Background.register_of_schedule`: a task that runs again and again is due after its initial delay.
* `Rehearsal.prepared_of_start`, `Sampler.prepared_of_start`: the services of the project are launched when
  they are prepared in this way.
-/

import HostWatch.Proofs.Service.Calls
import HostWatch.Sampler.Course
import HostWatch.Service.Rehearsal
import Mathlib.Data.List.Nodup

namespace HostWatch

namespace Background

variable {A : Type}

/-! ### Before the thread -/

/-- A service without a thread takes any task. -/
theorem register_of_no_thread {service : Background A} (threadless : service.thread? = none) (name : String)
    (action : A) (due : Int) (delay? : Option Int) :
    service.register name action due delay? = .ok { service with
      agenda := service.agenda.insert ⟨due, service.nextNumber, name, delay?, action⟩
      nextNumber := service.nextNumber + 1 } := by
  unfold register
  rw [threadless]

/-- A service with a thread takes no task. -/
theorem register_of_thread {service : Background A} (threaded : service.thread?.isSome) (name : String)
    (action : A) (due : Int) (delay? : Option Int) :
    service.register name action due delay? = .error (.service (.lateTask service.name)) := by
  obtain ⟨thread, is⟩ := Option.isSome_iff_exists.1 threaded
  unfold register
  rw [is]

end Background

/-- **A service before its thread is launched**, with the tasks that were registered for it since the last of
its starts that failed. -/
inductive Prepared {A : Type} : Background A → List (Task A) → Prop where
  | of (scale : TimeScale) (name : String) : Prepared (.of scale name) []
  | register {service after : Background A} {tasks : List (Task A)} (name : String) (action : A) (due : Int)
      (delay? : Option Int) (prepared : Prepared service tasks)
      (done : service.register name action due delay? = .ok after) :
      Prepared after (tasks ++ [⟨due, service.nextNumber, name, delay?, action⟩])
  | beginStart {service after : Background A} {tasks : List (Task A)} (prepared : Prepared service tasks)
      (done : service.beginStart = .ok after) : Prepared after tasks
  | failStart {service : Background A} {tasks : List (Task A)} (prepared : Prepared service tasks) :
      Prepared service.failStart []
  | stop {service after : Background A} {tasks : List (Task A)} (prepared : Prepared service tasks)
      (done : service.stop? = some after) : Prepared after tasks

/-- **What is known of a service before its thread is launched**: its agenda has the tasks that were
registered, in order, each with a number of its own. -/
structure ReadyFor {A : Type} (service : Background A) (tasks : List (Task A)) : Prop where
  thread?_eq : service.thread? = none
  ordered : service.agenda.Ordered
  perm : service.agenda.Perm tasks
  number_lt : ∀ task ∈ tasks, task.number < service.nextNumber
  distinct : (tasks.map Task.number).Nodup

theorem Prepared.readyFor {A : Type} {service : Background A} {tasks : List (Task A)}
    (prepared : Prepared service tasks) : ReadyFor service tasks := by
  induction prepared with
  | of scale name => exact ⟨rfl, List.Pairwise.nil, .refl _, nofun, List.nodup_nil⟩
  | @register service after tasks name action due delay? _ done ready =>
    rw [Background.register_of_no_thread ready.thread?_eq] at done
    obtain rfl := Except.ok.inj done
    generalize task_eq : (⟨due, service.nextNumber, name, delay?, action⟩ : Task A) = task
    have number_eq : task.number = service.nextNumber := task_eq ▸ rfl
    refine ⟨ready.thread?_eq, Agenda.insert_ordered task _ ready.ordered, ?_, ?_, ?_⟩
    · refine (Agenda.insert_perm task _).trans ((ready.perm.cons task).trans ?_)
      exact (List.perm_append_singleton task tasks).symm
    · intro other member
      show other.number < service.nextNumber + 1
      rcases List.mem_append.1 member with before | last
      · have := ready.number_lt other before
        omega
      · rw [List.mem_singleton.1 last]
        omega
    · rw [List.map_append, List.nodup_append]
      refine ⟨ready.distinct, List.nodup_singleton _, ?_⟩
      intro number before last is
      obtain ⟨other, member, rfl⟩ := List.mem_map.1 before
      have := ready.number_lt other member
      rw [List.map_singleton, List.mem_singleton] at is
      omega
  | beginStart _ done ready =>
    unfold Background.beginStart at done
    split at done
    · cases done
    · obtain rfl := Except.ok.inj done
      exact ⟨ready.thread?_eq, ready.ordered, ready.perm, ready.number_lt, ready.distinct⟩
  | failStart _ ready => exact ⟨ready.thread?_eq, List.Pairwise.nil, .refl _, nofun, List.nodup_nil⟩
  | stop _ done ready =>
    unfold Background.stop? at done
    split at done
    · obtain rfl := Option.some.inj done
      exact ⟨ready.thread?_eq, ready.ordered, ready.perm, ready.number_lt, ready.distinct⟩
    · cases done

/-! ### Tasks -/

namespace Background

variable {A : Type} {service after : Background A} {now : Int} {name : String} {action : A}

/-- A task that runs again and again is due after its initial delay. -/
theorem register_of_schedule {initial delay : Int}
    (done : service.schedule now name action initial delay = .ok after) :
    service.register name action (service.scale.due now initial) (some delay) = .ok after := by
  unfold schedule at done
  cases first : (SamplingPlan.seconds initial).mapError Failure.arithmetic with
  | error failure =>
    rw [first] at done
    cases done
  | ok seconds =>
    rw [first] at done
    cases again : (SamplingPlan.seconds delay).mapError Failure.arithmetic with
    | error failure =>
      rw [again] at done
      cases done
    | ok seconds =>
      rw [again] at done
      exact done

/-- A start that is let through marks the service as running. -/
theorem stage_beginStart (done : service.beginStart = .ok after) : after.stage = .running := by
  by_cases created : service.stage = .created
  · rw [beginStart_of_created created] at done
    obtain rfl := Except.ok.inj done
    rfl
  · rw [beginStart_of_not_created created] at done
    cases done

end Background

/-- A service that is prepared, for some tasks, at a stage. -/
def PreparedAt {A : Type} (stage : Lifecycle) (service : Background A) : Prop :=
  service.stage = stage ∧ ∃ tasks, Prepared service tasks

theorem PreparedAt.register {A : Type} {stage : Lifecycle} {service after : Background A}
    (prepared : PreparedAt stage service) {name : String} {action : A} {due : Int} {delay? : Option Int}
    (done : service.register name action due delay? = .ok after) : PreparedAt stage after := by
  obtain ⟨is, tasks, prepared⟩ := prepared
  exact ⟨(Background.stage_register done).trans is, _, .register _ _ _ _ prepared done⟩

theorem PreparedAt.beginStart {A : Type} {service after : Background A} {tasks : List (Task A)}
    (prepared : Prepared service tasks) (done : service.beginStart = .ok after) : PreparedAt .running after :=
  ⟨Background.stage_beginStart done, tasks, .beginStart prepared done⟩

/-! ### Starts -/

namespace Rehearsal

variable {now : Int} {stage : Lifecycle} {service after : Background Script}

theorem preparedAt_register {script : Script} (prepared : PreparedAt stage service)
    (done : register now script service = .ok after) : PreparedAt stage after := by
  unfold register at done
  split at done
  · exact prepared.register done
  · exact prepared.register (Background.register_of_schedule done)

theorem preparedAt_foldlM {scripts : List Script} (prepared : PreparedAt stage service)
    (done : scripts.foldlM (fun service script => register now script service) service = .ok after) :
    PreparedAt stage after := by
  induction scripts generalizing service with
  | nil =>
    obtain rfl := Except.ok.inj done
    exact prepared
  | cons script rest ih =>
    rw [List.foldlM_cons] at done
    cases first : register now script service with
    | error failure =>
      rw [first] at done
      cases done
    | ok next =>
      rw [first] at done
      exact ih (preparedAt_register prepared first) done

theorem preparedAt_prepare {rehearsal : Rehearsal} (prepared : PreparedAt stage service)
    (done : prepare now rehearsal service = .ok after) : PreparedAt stage after := by
  unfold prepare at done
  cases registered : rehearsal.tasks.foldlM (fun service script => register now script service) service with
  | error failure =>
    rw [registered] at done
    cases done
  | ok next =>
    rw [registered] at done
    dsimp only [bind, Except.bind] at done
    split at done
    · cases done
    · obtain rfl := Except.ok.inj done
      exact preparedAt_foldlM prepared registered

/-- **A start of a rehearsal launches a service that is prepared.** -/
theorem prepared_of_start {scene after : Scene} {tasks : List (Task Script)}
    (prepared : Prepared scene.1 tasks) (done : start now scene = (.ok (), after)) :
    ∃ service, PreparedAt .running service ∧ after.1 = service.launch scene.2.nextThread := by
  unfold start at done
  dsimp only at done
  split at done
  · cases done
  · rename_i begun marked
    split at done
    · cases done
    · rename_i service made
      obtain ⟨-, rfl⟩ := Prod.mk.inj done
      exact ⟨service, preparedAt_prepare (.beginStart prepared marked) made, rfl⟩

end Rehearsal

namespace Sampler

variable {now : Int} {stage : Lifecycle} {sampler : Sampler} {service after : Background SamplerTask}

theorem preparedAt_register {task : SamplerTask} {plan : SamplingPlan} (prepared : PreparedAt stage service)
    (done : register now task plan service = .ok after) : PreparedAt stage after :=
  prepared.register (Background.register_of_schedule done)

theorem preparedAt_registerTasks (prepared : PreparedAt stage service)
    (done : registerTasks now sampler service = .ok after) : PreparedAt stage after := by
  unfold registerTasks at done
  cases first : register now .sample sampler.samplePlan service with
  | error failure =>
    rw [first] at done
    cases done
  | ok next =>
    rw [first] at done
    dsimp only [bind, Except.bind] at done
    split at done
    · obtain rfl := Except.ok.inj done
      exact preparedAt_register prepared first
    · exact preparedAt_register (preparedAt_register prepared first) done

theorem preparedAt_prepare (prepared : PreparedAt stage service)
    (done : (prepare now sampler service).1 = .ok after) : PreparedAt stage after := by
  unfold prepare at done
  split at done
  · exact preparedAt_registerTasks prepared done
  · split at done
    · cases done
    · exact preparedAt_registerTasks prepared done

/-- **A start of a sampler launches a service that is prepared.** -/
theorem prepared_of_start {running after : Running} {tasks : List (Task SamplerTask)} {thread : Nat}
    (prepared : Prepared running.1 tasks) (done : start thread now running = (.ok (), after)) :
    ∃ service, PreparedAt .running service ∧ after.1 = service.launch thread := by
  unfold start at done
  split at done
  · cases done
  · rename_i begun marked
    split at done
    · cases done
    · rename_i service sampler made
      obtain ⟨-, rfl⟩ := Prod.mk.inj done
      exact ⟨service, preparedAt_prepare (.beginStart prepared marked) (congrArg Prod.fst made), rfl⟩

end Sampler

end HostWatch
