/-
**Runs of an arena.**

A run is a list of moves, each of one thread. A thread that is inside a call that waits cannot make
another move than the one that ends its waiting, and a move that cannot be made leaves the arena as it is.

* `Arena.lookup_setLock`, `blockedCall?_beginWait`, `blockedCall?_giveUp` and their kin: the three views
  of an arena (its locks, the waiters that the registry notes, the calls that wait) after each step.
* `Arena.effect_move`: **what a move can do.** Either nothing, or one of the five steps of the arena, with
  all that holds when the step is taken. Whatever holds in every run is proved by cases on this.
-/

import HostWatch.Lock.Arena

namespace HostWatch

/-- A move of one thread. -/
inductive LockMove where
  /-- It asks for a lock, to have it at once or not at all. -/
  | attempt (thread : Int) (name : String)
  /-- It begins to wait for a lock. The lock was taken when the thread looked, and may be free by now. -/
  | beginWait (thread : Int) (name : String) (call : LockCall)
  /-- It takes the lock for which it waits. -/
  | finishWait (thread : Int)
  | timeOut (thread : Int)
  /-- The primitive lock ends its call with a failure. -/
  | breakOff (thread : Int)
  /-- It gives a lock back, whether or not it holds the lock. -/
  | release (thread : Int) (name : String)
deriving DecidableEq

/-- The thread that leaves its call without the lock by a move, if one does. -/
def LockMove.leaver? : LockMove → Option Int
  | timeOut thread => some thread
  | breakOff thread => some thread
  | _ => none

namespace Arena

/-- The arena of some locks, all of them free. -/
def fresh (findsPlain : Bool) (kinds : List (String × LockKind)) : Arena :=
  ⟨findsPlain, kinds.map fun (name, kind) => (name, .free kind), [], []⟩

/-- What comes after a move that only a thread outside of all calls can make. -/
def ifIdle (arena : Arena) (thread : Int) (after : Arena) : Arena :=
  match arena.blockedCall? thread with
  | none => after
  | some _ => arena

/-- What comes after a move that only a thread inside a call that waits can make. -/
def ifWaiting (arena : Arena) (thread : Int) (after : BlockedCall → Arena) : Arena :=
  match arena.blockedCall? thread with
  | none => arena
  | some blocked => after blocked

def move (arena : Arena) : LockMove → Arena
  | .attempt thread name => arena.ifIdle thread ((arena.tryAcquire thread name).getD arena)
  | .beginWait thread name call => arena.ifIdle thread (arena.beginWait thread name call)
  | .finishWait thread =>
    arena.ifWaiting thread fun blocked => (arena.finishWait thread blocked.lock).getD arena
  | .timeOut thread => arena.ifWaiting thread fun _ => arena.giveUp thread
  | .breakOff thread => arena.ifWaiting thread fun _ => arena.giveUp thread
  | .release thread name => arena.ifIdle thread (arena.release thread name).1

def run (arena : Arena) (moves : List LockMove) : Arena := moves.foldl move arena

@[simp] theorem run_nil (arena : Arena) : arena.run [] = arena := rfl

@[simp] theorem run_cons (arena : Arena) (first : LockMove) (rest : List LockMove) :
    arena.run (first :: rest) = (arena.move first).run rest := rfl

theorem run_append (arena : Arena) (first second : List LockMove) :
    arena.run (first ++ second) = (arena.run first).run second := List.foldl_append

/-- What every move keeps, every run keeps. -/
theorem run_induction {P : Arena → Prop} (kept : ∀ arena move, P arena → P (arena.move move))
    {arena : Arena} (start : P arena) (moves : List LockMove) : P (arena.run moves) := by
  induction moves generalizing arena with
  | nil => exact start
  | cons first rest ih => exact ih (kept arena first start)

/-! ### The views of an arena after each step -/

section Views

variable (arena : Arena) (thread other : Int) (name otherName : String)

theorem lookup_setLock (lock : ArenaLock) :
    (arena.setLock name lock).locks.lookup otherName =
      if otherName = name then some lock else arena.locks.lookup otherName :=
  KeyedList.lookup_set ..

theorem setLock_eq_self {arena : Arena} {name : String} {lock : ArenaLock}
    (present : arena.locks.lookup name = some lock) : arena.setLock name lock = arena := by
  unfold setLock
  rw [KeyedList.set_eq_self present]

@[simp] theorem waiting_setLock (lock : ArenaLock) :
    (arena.setLock name lock).waiting = arena.waiting := rfl

theorem waiting_beginWait (call : LockCall) :
    (arena.beginWait thread name call).waiting.lookup other =
      if other = thread then some name else arena.waiting.lookup other :=
  KeyedList.lookup_set ..

theorem waiting_giveUp :
    (arena.giveUp thread).waiting.lookup other =
      if other = thread then none else arena.waiting.lookup other :=
  KeyedList.lookup_erase ..

theorem blockedCall?_beginWait {arena : Arena} {thread : Int}
    (idle : arena.blockedCall? thread = none) (other : Int) (name : String) (call : LockCall) :
    (arena.beginWait thread name call).blockedCall? other =
      if other = thread then some ⟨thread, name, call⟩ else arena.blockedCall? other := by
  unfold blockedCall? at *
  change List.find? _ (arena.blocked ++ [_]) = _
  rw [List.find?_append]
  by_cases same : other = thread
  · subst same
    rw [idle, if_pos rfl]
    simp
  · rw [if_neg same]
    simp [Ne.symm same]

theorem blockedCall?_giveUp :
    (arena.giveUp thread).blockedCall? other =
      if other = thread then none else arena.blockedCall? other := by
  unfold blockedCall? giveUp
  rw [List.find?_filter]
  by_cases same : other = thread
  · subst same
    rw [if_pos rfl]
    simp
  · rw [if_neg same]
    congr 1
    funext blocked
    by_cases own : blocked.thread = other
    · simp [own, same]
    · simp [own]

end Views

/-! ### What a move can do -/

/-- A thread takes a lock at once only if the primitive lock admits it. -/
theorem tryAcquire_eq_some {arena after : Arena} {thread : Int} {name : String}
    (taken : arena.tryAcquire thread name = some after) :
    ∃ lock, arena.locks.lookup name = some lock ∧ lock.primitive.admits lock.kind thread = true ∧
      after = arena.setLock name (lock.take thread) := by
  unfold tryAcquire at taken
  cases present : arena.locks.lookup name with
  | none => simp [present] at taken
  | some lock =>
    simp only [present, Option.bind_eq_bind, Option.bind_some, Option.ite_none_right_eq_some,
      Option.some.injEq] at taken
    exact ⟨lock, rfl, taken.1, taken.2.symm⟩

/-- What a move does, with all that holds when it does that. -/
inductive Effect (arena : Arena) : LockMove → Arena → Prop where
  | none (move : LockMove) : Effect arena move arena
  /-- A thread takes a lock at once. -/
  | take (thread : Int) (name : String) (lock : ArenaLock)
      (idle : arena.blockedCall? thread = .none) (present : arena.locks.lookup name = some lock)
      (admitted : lock.primitive.admits lock.kind thread = true) :
      Effect arena (.attempt thread name) (arena.setLock name (lock.take thread))
  | wait (thread : Int) (name : String) (call : LockCall)
      (idle : arena.blockedCall? thread = .none) :
      Effect arena (.beginWait thread name call) (arena.beginWait thread name call)
  | obtain (thread : Int) (blocked : BlockedCall) (lock : ArenaLock)
      (waits : arena.blockedCall? thread = some blocked)
      (present : arena.locks.lookup blocked.lock = some lock)
      (admitted : lock.primitive.admits lock.kind thread = true) :
      Effect arena (.finishWait thread)
        ((arena.giveUp thread).setLock blocked.lock (lock.take thread))
  | giveUp (move : LockMove) (thread : Int) (blocked : BlockedCall)
      (leaver : move.leaver? = some thread) (waits : arena.blockedCall? thread = some blocked) :
      Effect arena move (arena.giveUp thread)
  | release (thread : Int) (name : String) (lock : ArenaLock)
      (idle : arena.blockedCall? thread = .none) (present : arena.locks.lookup name = some lock) :
      Effect arena (.release thread name) (arena.setLock name (lock.release thread).1)

theorem effect_ifIdle {arena after : Arena} {move : LockMove} {thread : Int}
    (effect : arena.blockedCall? thread = none → Effect arena move after) :
    Effect arena move (arena.ifIdle thread after) := by
  unfold ifIdle
  split
  · rename_i idle
    exact effect idle
  · exact .none move

theorem effect_ifWaiting {arena : Arena} {after : BlockedCall → Arena} {move : LockMove} {thread : Int}
    (effect : ∀ blocked, arena.blockedCall? thread = some blocked → Effect arena move (after blocked)) :
    Effect arena move (arena.ifWaiting thread after) := by
  unfold ifWaiting
  split
  · exact .none move
  · rename_i blocked waits
    exact effect blocked waits

/-- **What a move can do.** -/
theorem effect_move (arena : Arena) (move : LockMove) : Effect arena move (arena.move move) := by
  cases move with
  | attempt thread name =>
    refine effect_ifIdle fun idle => ?_
    cases taken : arena.tryAcquire thread name with
    | none => exact .none _
    | some after =>
      obtain ⟨lock, present, admitted, rfl⟩ := tryAcquire_eq_some taken
      exact .take thread name lock idle present admitted
  | beginWait thread name call => exact effect_ifIdle fun idle => .wait thread name call idle
  | finishWait thread =>
    refine effect_ifWaiting fun blocked waits => ?_
    cases taken : arena.finishWait thread blocked.lock with
    | none => exact .none _
    | some after =>
      obtain ⟨lock, present, admitted, rfl⟩ := tryAcquire_eq_some taken
      exact .obtain thread blocked lock waits present admitted
  | timeOut thread =>
    exact effect_ifWaiting fun blocked waits => .giveUp _ thread blocked rfl waits
  | breakOff thread =>
    exact effect_ifWaiting fun blocked waits => .giveUp _ thread blocked rfl waits
  | release thread name =>
    refine effect_ifIdle fun idle => ?_
    unfold Arena.release
    split
    · exact .none _
    · rename_i lock present
      exact .release thread name lock idle present

end Arena

end HostWatch
