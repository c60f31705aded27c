/-
**Services in the background.**

A service runs its tasks on one thread, one after the other. Tasks are registered before the thread
exists, and are due at moments of the time scale of the service. A task with a delay runs again that
long after the end of its last run, whatever that run took and however it ended.

A start first marks the service as running, then registers tasks, and then launches the thread; when the
registration fails the tasks are dropped and the service can be started again. A stop marks the service
as stopped and then signals the thread, which does not begin another task.
-/
import HostWatch.Config.SamplingPlan
import HostWatch.Failure
import HostWatch.Service.Agenda
import HostWatch.Service.TimeScale

namespace HostWatch

/-- What the thread of a service is doing. -/
inductive Runner (A : Type) where
  /-- It was not yet launched. -/
  | absent
  /-- It is between two runs and about to look at the agenda. -/
  | waiting
  /-- It sleeps up to a reading of the clock. -/
  | sleeping (ending : Int)
  /-- It runs a task, up to a reading of the clock. -/
  | running (task : Task A) (ending : Int)
  | ended

/-- A service in the background. -/
structure Background (A : Type) where
  name : String
  scale : TimeScale
  stage : Lifecycle
  stopRequested : Bool
  agenda : Agenda A
  /-- The number of the next task that is registered. -/
  nextNumber : Nat
  runner : Runner A
  /-- The number of the thread among the threads of all services, once it was launched. -/
  thread? : Option Nat

namespace Background

variable {A : Type}

/-- The service with a name and a time scale before its start. -/
def of (scale : TimeScale) (name : String) : Background A :=
  ⟨name, scale, .created, false, [], 0, .absent, none⟩

def isRunning (service : Background A) : Bool := service.stage = .running

/-- Whether the thread was launched and has not ended. -/
def isAlive (service : Background A) : Bool :=
  match service.runner with
  | .absent => false
  | .ended => false
  | _ => true

/-- The name of the thread, once it was launched. -/
def threadName? (service : Background A) : Option String :=
  service.thread?.map fun number => s!"webmon-{service.name}-{number}"

/-! ### Registration -/

/-- Registers a task that is due at a moment. -/
def register (service : Background A) (name : String) (action : A) (due : Int) (delay? : Option Int) :
    Except Failure (Background A) :=
  match service.thread? with
  | some _ => .error (.service (.lateTask service.name))
  | none => .ok { service with
      agenda := service.agenda.insert ⟨due, service.nextNumber, name, delay?, action⟩
      nextNumber := service.nextNumber + 1 }

/-- Registers a task that runs once, now. -/
def execute (service : Background A) (now : Int) (name : String) (action : A) :
    Except Failure (Background A) :=
  service.register name action (service.scale.due now 0) none

/-- Registers a task that runs again and again, first after an initial delay. Delays that are no finite
number of seconds are refused. -/
def schedule (service : Background A) (now : Int) (name : String) (action : A) (initial delay : Int) :
    Except Failure (Background A) := do
  let _ ← (SamplingPlan.seconds initial).mapError .arithmetic
  let _ ← (SamplingPlan.seconds delay).mapError .arithmetic
  service.register name action (service.scale.due now initial) (some delay)

/-! ### Start and stop -/

/-- The first part of a start: the service is marked as running. -/
def beginStart (service : Background A) : Except Failure (Background A) :=
  match service.stage.started service.name with
  | .error fault => .error (.service fault)
  | .ok stage => .ok { service with stage := stage }

def failStart (service : Background A) : Background A :=
  { service with agenda := [], stage := .created }

/-- The end of a start that did not fail: the thread is launched. -/
def launch (service : Background A) (thread : Nat) : Background A :=
  { service with runner := .waiting, thread? := some thread }

/-- The first part of a stop. -/
def markStopped (service : Background A) : Background A := { service with stage := .stopped }

/-- The second part of a stop. -/
def signalStop (service : Background A) : Background A := { service with stopRequested := true }

/-- The service after a stop, if the stop has an effect. -/
def stop? (service : Background A) : Option (Background A) :=
  if service.isRunning then some service.markStopped.signalStop else none

/-! ### The thread -/

def finish (service : Background A) : Background A := { service with runner := .ended }

def sleep (service : Background A) (ending : Int) : Background A :=
  { service with runner := .sleeping ending }

/-- The thread begins with the first task of the agenda. -/
def begin (service : Background A) (task : Task A) (rest : Agenda A) (ending : Int) : Background A :=
  { service with agenda := rest, runner := .running task ending }

/-- The thread is done with a task, which is put on the agenda again when it has a delay. -/
def conclude (service : Background A) (task : Task A) (now : Int) : Background A :=
  { service with
    runner := .waiting
    agenda := match task.delay? with
      | none => service.agenda
      | some delay => service.agenda.insert { task with due := service.scale.due now delay } }

end Background

end HostWatch
