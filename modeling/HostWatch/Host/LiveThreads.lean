/-
**The live threads of the process.**

A thread that waits for a tracked lock is blocked. The state of any other thread is a letter in its state
file, behind the name of the thread in parentheses; where there is no such file the state is unknown.

State files, clocks and stacks are asked for by the identity of a thread. Where several threads share one,
the last of them that has what is asked for answers.

* `takeSnapshot` captures every thread that was started, with its CPU time.
* `dumpThread` captures one thread with its stack.
-/
import HostWatch.Host.Machine
import HostWatch.Host.ProcessStat
import HostWatch.Lock.Registry
import HostWatch.Thread.Basic

namespace HostWatch

namespace LiveThread

/-- The names of the states by their letters. -/
def stateNames : List (Char × String) := [
  ('R', "RUNNABLE"), ('S', "SLEEPING"), ('D', "WAITING_IO"), ('T', "STOPPED"), ('t', "TRACED"),
  ('Z', "ZOMBIE"), ('X', "DEAD"), ('I', "IDLE")]

/-- The name of a state that cannot be told. -/
def unknownState : String := "UNKNOWN"

/-- The name of the state of a thread that waits for a lock. -/
def blockedState : String := "BLOCKED"

/-- The name of the state in the text of a state file. -/
def stateIn (text : List Char) : Except Failure String := do
  let behind ← ProcessStat.behindName text
  return (behind.head?.bind fun letter => stateNames.lookup letter).getD unknownState

/-- The state file of the thread with an identity from the operating system. -/
def stateFileOf (threads : List LiveThread) (nativeId : Int) : HostFile :=
  ((threads.reverse.find? fun thread =>
    thread.nativeId = some nativeId && thread.stateFile.isThere).map stateFile).getD .missing

/-- The clock of the CPU time of the thread with an identity. -/
def clockOf (threads : List LiveThread) (id : Int) : CpuClock :=
  ((threads.reverse.find? fun thread =>
    thread.id = some id && thread.clock.exists).map clock).getD .none

/-- The stack of the thread with an identity. -/
def framesOf (threads : List LiveThread) (id : Int) : List Frame :=
  ((threads.reverse.find? fun thread =>
    thread.id = some id && !thread.frames.isEmpty).map frames).getD []

/-- The name of the state that the operating system gives a thread among others. -/
def systemState (threads : List LiveThread) (thread : LiveThread) : Probe String := do
  match thread.nativeId with
  | none => return unknownState
  | some nativeId =>
    match ← platform with
    | .linux =>
      match (stateFileOf threads nativeId).read? with
      | none => return unknownState
      | some text => Probe.ofExcept (stateIn text)
    | _ => return unknownState

/-- The identity of a thread, zero before it is started. -/
def identity (thread : LiveThread) : Int := thread.id.getD 0

def frameText (frame : Frame) : String := s!"{frame.file}:{frame.line} in {frame.function}"

/-- The name of the first thread with an identity. -/
def nameOf? (threads : List LiveThread) (id : Int) : Option String :=
  (threads.find? fun thread => thread.id = some id).map LiveThread.name

/-- The state of a thread, with its stack if that is wanted. -/
def info (registry : LockRegistry) (withStack : Bool) (thread : LiveThread) : Probe ThreadInfo := do
  let threads := (← Probe.host).threads
  let blocker := registry.blockerOf thread.identity
  let owner := blocker.bind fun (_, lock) => lock.owner
  let state ← if blocker.isSome then pure blockedState else thread.systemState threads
  return {
    id := thread.identity
    nativeId := thread.nativeId
    name := thread.name
    daemon := thread.daemon
    state := state
    waitingOn := blocker.map Prod.fst
    ownerId := owner
    ownerName := owner.bind (nameOf? threads)
    stack := if withStack then (framesOf threads thread.identity).map frameText else [] }

/-- The CPU time that the thread with an identity has used, in nanoseconds, `-1` when it cannot be
measured. -/
def cpuNanosOf (threads : List LiveThread) (id : Option Int) : Except Failure Int :=
  match id.map (clockOf threads) with
  | none => .ok (-1)
  | some .none => .ok (-1)
  | some (.nanos n) => .ok n
  | some (.fails error) =>
    if error.isMissingPart || error.isSystem || error.isOverflow then .ok (-1)
    else .error (.reported error)

/-- A thread that was started, with its CPU time. -/
def item (registry : LockRegistry) (thread : LiveThread) : Probe ThreadItem := do
  let info ← thread.info registry false
  let threads := (← Probe.host).threads
  return ⟨thread.identity, info, ← Probe.ofExcept (cpuNanosOf threads thread.id)⟩

end LiveThread

/-- A snapshot of the threads that were started. -/
def takeSnapshot (registry : LockRegistry) : Probe ThreadSnapshot := do
  let host ← Probe.host
  let started := host.threads.filter fun thread => thread.id.isSome
  let items ← started.mapM (LiveThread.item registry)
  return ⟨items, items.length, (started.filter LiveThread.daemon).length, host.time⟩

/-- The state and the stack of a thread, if it is still alive. -/
def dumpThread (registry : LockRegistry) (id : Int) : Probe (Option ThreadInfo) := do
  match (← Probe.host).threads.find? fun thread => thread.id = some id with
  | none => return none
  | some thread => return some (← thread.info registry true)

end HostWatch
