/-
**The lifecycle of a service.**

A service is created, then runs, then is stopped. It can be started only once, and tasks can be given
to it only before it runs them.
-/

namespace HostWatch

/-- Where a service is in its life. -/
inductive Lifecycle where
  /-- It was not started, or its start failed. -/
  | created
  | running
  | stopped
deriving DecidableEq

/-- The word for a stage of the life of a service. -/
def Lifecycle.word : Lifecycle → String
  | created => "created"
  | running => "running"
  | stopped => "stopped"

/-- What a service refuses. -/
inductive ServiceFault where
  /-- A start of the service with this name, at a stage other than the first one. -/
  | notStartable (name : String) (stage : Lifecycle)
  /-- A task for the service with this name, once it runs its tasks. -/
  | lateTask (name : String)
deriving DecidableEq

def ServiceFault.message : ServiceFault → String
  | notStartable name stage => s!"{name}: cannot start, the service is {stage.word}"
  | lateTask name => s!"{name}: tasks must be scheduled from started()"

/-- The stage after a start, which is possible only at the first stage. -/
def Lifecycle.started (name : String) : Lifecycle → Except ServiceFault Lifecycle
  | created => .ok running
  | stage => .error (.notStartable name stage)

end HostWatch
