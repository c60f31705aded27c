/-
**The registry of locks.**

Locks tell the registry which thread waits for them. A plain lock can be taken once; a reentrant one,
also called a monitor, again and again by the thread that holds it. A registry that cannot tell the
owners of plain locks looks for deadlocks among the reentrant ones only.

* `blockerOf` finds the lock for which a thread waits.
* `deadlocked` and `monitorDeadlocked` find the threads in a circle of waiting.
-/
import HostWatch.KeyedList
import HostWatch.Lock.WaitGraph

namespace HostWatch

/-- The two kinds of locks. -/
inductive LockKind where
  /-- A lock that is taken once. -/
  | plain
  /-- A lock that its holder can take again. -/
  | reentrant
deriving DecidableEq

/-- What the registry knows of a lock. -/
structure TrackedLock where
  kind : LockKind
  owner : Option Int
deriving DecidableEq

/-- The locks by their names, and the threads that wait for them. -/
structure LockRegistry where
  /-- Whether deadlocks on plain locks can be found. -/
  findsPlain : Bool
  locks : List (String × TrackedLock)
  /-- The name of the lock for which each waiting thread waits. -/
  waiting : List (Int × String)

namespace LockRegistry

def empty : LockRegistry := ⟨true, [], []⟩

/-- Notes that a thread begins to wait for a lock. -/
def beginWaiting (registry : LockRegistry) (thread : Int) (lock : String) : LockRegistry :=
  { registry with waiting := KeyedList.set thread lock registry.waiting }

/-- Notes that a thread waits no longer. -/
def endWaiting (registry : LockRegistry) (thread : Int) : LockRegistry :=
  { registry with waiting := KeyedList.erase thread registry.waiting }

def setOwner (registry : LockRegistry) (name : String) (owner : Option Int) : LockRegistry :=
  match registry.locks.lookup name with
  | none => registry
  | some lock => { registry with locks := KeyedList.set name { lock with owner } registry.locks }

/-- The name of the lock for which a thread waits, and the lock. -/
def blockerOf (registry : LockRegistry) (thread : Int) : Option (String × TrackedLock) := do
  let name ← registry.waiting.lookup thread
  let lock ← registry.locks.lookup name
  return (name, lock)

/-- The edge of the wait-for graph that a waiting thread makes, if any: the lock has to have another
thread as its owner. -/
def edge? (registry : LockRegistry) (monitorsOnly : Bool) (wait : Int × String) :
    Option (Int × Int) := do
  let lock ← registry.locks.lookup wait.2
  let owner ← lock.owner
  if (monitorsOnly && lock.kind = .plain) || owner = wait.1 then none else some (wait.1, owner)

def edges (registry : LockRegistry) (monitorsOnly : Bool) : WaitGraph.Edges :=
  registry.waiting.filterMap (registry.edge? monitorsOnly)

/-- The threads in a circle of waiting, in ascending order. -/
def cycles (registry : LockRegistry) (monitorsOnly : Bool) : List Int :=
  WaitGraph.members (registry.edges monitorsOnly)

/-- The threads that are deadlocked on reentrant locks. -/
def monitorDeadlocked (registry : LockRegistry) : List Int := registry.cycles true

/-- The threads that are deadlocked, on any lock if the registry can tell. -/
def deadlocked (registry : LockRegistry) : List Int :=
  if registry.findsPlain then registry.cycles false else registry.monitorDeadlocked

end LockRegistry

end HostWatch
