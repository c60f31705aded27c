/-
**Threads and snapshots of them.**

A snapshot tells which threads lived at one moment and how much CPU time each of them had used.
-/

namespace HostWatch

/-- The state of one thread at one moment. -/
structure ThreadInfo where
  id : Int
  /-- The identity that the operating system gives it, when known. -/
  nativeId : Option Int
  name : String
  /-- Whether the thread does not keep the process alive. -/
  daemon : Bool
  state : String
  /-- The name of the lock for which the thread waits. -/
  waitingOn : Option String
  ownerId : Option Int
  ownerName : Option String
  /-- The frames of its stack, the innermost one first. -/
  stack : List String
deriving DecidableEq

/-- A thread together with its CPU time. -/
structure ThreadItem where
  id : Int
  info : ThreadInfo
  /-- The CPU time that it has used, in nanoseconds; negative when it cannot be measured. -/
  cpuNanos : Int
deriving DecidableEq

/-- The threads at one moment. -/
structure ThreadSnapshot where
  items : List ThreadItem
  count : Int
  /-- The number of threads that do not keep the process alive. -/
  daemons : Int
  /-- The moment, in milliseconds. -/
  takenAt : Int
deriving DecidableEq

namespace ThreadSnapshot

def ids (snapshot : ThreadSnapshot) : List Int := snapshot.items.map ThreadItem.id

/-- The first thread with an identity. -/
def get? (snapshot : ThreadSnapshot) (id : Int) : Option ThreadItem :=
  snapshot.items.find? fun item => item.id = id

end ThreadSnapshot

end HostWatch
