/-
**Threads that take and release locks.**

Below each tracked lock lies a primitive one, which has a holder and, when it is reentrant, a depth.
Above it the tracked lock notes its owner and how often the owner took it, and the registry notes who
waits. A thread inside a call that waits does nothing else.

* The steps are `tryAcquire`, `beginWait`, `finishWait`, `giveUp` and `release`. Each is one move of
  one thread, and none looks at more than its own lock.
* `Arena.call` is a whole call of a thread. A lock that becomes free passes on to the thread that has
  waited for it longest.
-/
import HostWatch.Failure
import HostWatch.Lock.Registry

namespace HostWatch

/-- A primitive lock. -/
structure PrimitiveLock where
  holder : Option Int
  depth : Nat
deriving DecidableEq

namespace PrimitiveLock

def free : PrimitiveLock := ⟨none, 0⟩

/-- Whether a thread can take the lock at once. -/
def admits (lock : PrimitiveLock) (kind : LockKind) (thread : Int) : Bool :=
  lock.holder.isNone || (kind = .reentrant && lock.holder = some thread)

/-- The lock taken once more, by a thread that it admits. -/
def take (lock : PrimitiveLock) (thread : Int) : PrimitiveLock := ⟨some thread, lock.depth + 1⟩

/-- The lock given back once; a free lock cannot be given back. -/
def giveBack (lock : PrimitiveLock) : Except Failure PrimitiveLock :=
  if lock.holder.isNone then .error .alreadyFree
  else if 1 < lock.depth then .ok { lock with depth := lock.depth - 1 }
  else .ok free

end PrimitiveLock

/-- A lock with the primitive one below it. -/
structure ArenaLock where
  kind : LockKind
  primitive : PrimitiveLock
  owner : Option Int
  /-- How often the owner took a reentrant lock. -/
  count : Int
deriving DecidableEq

namespace ArenaLock

def free (kind : LockKind) : ArenaLock := ⟨kind, .free, none, 0⟩

/-- The lock taken by a thread that the primitive lock admits. -/
def take (lock : ArenaLock) (thread : Int) : ArenaLock :=
  { lock with
    primitive := lock.primitive.take thread
    owner := some thread
    count := if lock.kind = .reentrant then lock.count + 1 else lock.count }

/-- The lock after a release by a thread, and whether the release was refused. A reentrant lock refuses
all but its owner; a plain lock that is free is refused by the primitive lock. -/
def release (lock : ArenaLock) (thread : Int) : ArenaLock × Option Failure :=
  let noted : Except Failure ArenaLock :=
    match lock.kind with
    | .plain => .ok { lock with owner := none }
    | .reentrant =>
      if lock.owner = some thread then
        .ok { lock with
          count := lock.count - 1
          owner := if lock.count - 1 = 0 then none else lock.owner }
      else .error .notAcquired
  match noted with
  | .error failure => (lock, some failure)
  | .ok noted =>
    match noted.primitive.giveBack with
    | .error failure => (noted, some failure)
    | .ok primitive => ({ noted with primitive }, none)

/-- The text that identifies a lock in messages. -/
def identified (name : String) (lock : ArenaLock) : String :=
  let kind := match lock.kind with
    | .plain => "TrackedLock"
    | .reentrant => "TrackedRLock"
  let owner := match lock.owner with
    | none => "None"
    | some thread => toString thread
  "<" ++ kind ++ " " ++ Text.quoted name ++ " owner=" ++ owner ++ ">"

end ArenaLock

/-- What a thread asks of a lock. -/
inductive LockCall where
  | acquire
  | acquireTimed
  /-- To have it at once or not at all. -/
  | attempt
  | enter
  | release
  | exit
deriving DecidableEq

/-- What a call comes to. -/
inductive LockAnswer where
  /-- The lock was acquired, or not. -/
  | acquired (yes : Bool)
  | released
  | failed (failure : Failure)
  | blocked
  | busy
  /-- The thread does not wait. -/
  | notBlocked

/-- A thread inside a call that waits. -/
structure BlockedCall where
  thread : Int
  lock : String
  call : LockCall
deriving DecidableEq

/-- Locks and the threads that wait for them. -/
structure Arena where
  /-- Whether deadlocks on plain locks can be found. -/
  findsPlain : Bool
  locks : List (String × ArenaLock)
  /-- What the registry notes: the lock for which each thread waits. -/
  waiting : List (Int × String)
  /-- The threads inside calls that wait, the one that has waited longest first. -/
  blocked : List BlockedCall

namespace Arena

def registry (arena : Arena) : LockRegistry :=
  ⟨arena.findsPlain, arena.locks.map fun (name, lock) => (name, ⟨lock.kind, lock.owner⟩),
    arena.waiting⟩

def setLock (arena : Arena) (name : String) (lock : ArenaLock) : Arena :=
  { arena with locks := KeyedList.set name lock arena.locks }

/-- A thread takes a lock at once, if the primitive lock admits it. -/
def tryAcquire (arena : Arena) (thread : Int) (name : String) : Option Arena := do
  let lock ← arena.locks.lookup name
  if lock.primitive.admits lock.kind thread then some (arena.setLock name (lock.take thread)) else none

/-- A thread begins to wait for a lock. -/
def beginWait (arena : Arena) (thread : Int) (name : String) (call : LockCall) : Arena :=
  { arena with
    waiting := KeyedList.set thread name arena.waiting
    blocked := arena.blocked ++ [⟨thread, name, call⟩] }

/-- A thread leaves its call without the lock, because of the time or of a failure. -/
def giveUp (arena : Arena) (thread : Int) : Arena :=
  { arena with
    waiting := KeyedList.erase thread arena.waiting
    blocked := arena.blocked.filter fun blocked => blocked.thread ≠ thread }

/-- A thread that waits takes its lock, once the primitive lock admits it, and leaves its call. -/
def finishWait (arena : Arena) (thread : Int) (name : String) : Option Arena :=
  (arena.giveUp thread).tryAcquire thread name

def release (arena : Arena) (thread : Int) (name : String) : Arena × Option Failure :=
  match arena.locks.lookup name with
  | none => (arena, none)
  | some lock =>
    let (after, failure) := lock.release thread
    (arena.setLock name after, failure)

/-- The thread that has waited longest for a lock, with its call. -/
def longestWaiter? (arena : Arena) (name : String) : Option BlockedCall :=
  arena.blocked.find? fun blocked => blocked.lock = name

/-- A lock that is free passes on to the thread that has waited for it longest. -/
def passOn (arena : Arena) (name : String) : Arena × Option BlockedCall :=
  match arena.longestWaiter? name with
  | none => (arena, none)
  | some waiter =>
    match arena.finishWait waiter.thread name with
    | none => (arena, none)
    | some after => (after, some waiter)

/-- The call inside which a thread waits. -/
def blockedCall? (arena : Arena) (thread : Int) : Option BlockedCall :=
  arena.blocked.find? fun blocked => blocked.thread = thread

/-- The answer to a call that ended without the lock. The guard of a block does not look whether it got
the lock. -/
def answerWithout (call : LockCall) : LockAnswer := .acquired (call = .enter)

/-- A call of a thread: the arena after it, the answer, and the thread to which a lock passed on. -/
def call (arena : Arena) (thread : Int) (call : LockCall) (name : String) :
    Arena × LockAnswer × Option BlockedCall :=
  if (arena.blockedCall? thread).isSome then (arena, .busy, none)
  else if call = .release ∨ call = .exit then
    match arena.release thread name with
    | (after, some failure) => (after, .failed failure, none)
    | (after, none) =>
      let (passed, resumed) := after.passOn name
      (passed, .released, resumed)
  else
    match arena.tryAcquire thread name with
    | some after => (after, .acquired true, none)
    | none =>
      if call = .attempt then (arena, .acquired false, none)
      else (arena.beginWait thread name call, .blocked, none)

/-- The time of a call that waits is over. -/
def timeOut (arena : Arena) (thread : Int) : Arena × LockAnswer :=
  match arena.blockedCall? thread with
  | none => (arena, .notBlocked)
  | some blocked => (arena.giveUp thread, answerWithout blocked.call)

end Arena

end HostWatch
