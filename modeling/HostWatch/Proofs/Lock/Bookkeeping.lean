/-
**The notes of tracked locks are right.**

A tracked lock notes its owner and how often the owner took it; the registry notes who waits for which
lock. Both are written beside the primitive lock and the call of the thread, and nothing forces them to
agree. They agree in every state that a run of moves reaches:

* `ArenaLock.Faithful`, `Arena.Faithful`: **the invariant.** The notes of each lock are those of its
  primitive lock, and the waiters in the registry are the threads inside calls that wait.
* `Arena.faithful_run`: every run keeps it, by cases on `Arena.Effect`.
* `Arena.run_keepsBooks`: **what it comes to** for owners, counts, waiters and releases.
* `Arena.Faithful.exists_run_call`, `timeOut_eq_run`: a whole call of a thread is a run of moves, so that
  all this holds between whole calls, too.
-/

import HostWatch.Proofs.Lock.Moves

namespace HostWatch

/-! ### One lock -/

namespace ArenaLock

/-- **A lock whose notes are those of its primitive lock.** -/
structure Faithful (lock : ArenaLock) : Prop where
  owner_eq : lock.owner = lock.primitive.holder
  count_eq : lock.kind = .reentrant → lock.count = lock.primitive.depth
  depth_eq_zero_iff : lock.primitive.depth = 0 ↔ lock.primitive.holder = none
  depth_le_one : lock.kind = .plain → lock.primitive.depth ≤ 1

theorem faithful_free (kind : LockKind) : (free kind).Faithful :=
  ⟨rfl, fun _ => rfl, Iff.intro (fun _ => rfl) fun _ => rfl, fun _ => Nat.zero_le 1⟩

/-- Taking a lock that admits the thread keeps its notes right. -/
theorem Faithful.take {lock : ArenaLock} (faithful : lock.Faithful) {thread : Int}
    (admitted : lock.primitive.admits lock.kind thread = true) : (lock.take thread).Faithful := by
  refine ⟨rfl, fun kind => ?_, ?_, fun kind => ?_⟩
  · have reentrant : lock.kind = .reentrant := kind
    show (if lock.kind = .reentrant then lock.count + 1 else lock.count) = _
    rw [if_pos reentrant, faithful.count_eq reentrant]
    rfl
  · show lock.primitive.depth + 1 = 0 ↔ some thread = none
    simp
  · have plain : lock.kind = .plain := kind
    have isFree : lock.primitive.holder = none := by
      simpa [PrimitiveLock.admits, plain] using admitted
    have untaken := faithful.depth_eq_zero_iff.2 isFree
    show lock.primitive.depth + 1 ≤ 1
    omega

/-! A release goes one of four ways. -/

section Release

variable {lock : ArenaLock} (thread : Int)

theorem Faithful.release_of_stranger {thread : Int} (faithful : lock.Faithful)
    (kind : lock.kind = .reentrant) (stranger : lock.primitive.holder ≠ some thread) :
    lock.release thread = (lock, some .notAcquired) := by
  have notOwner : lock.owner ≠ some thread := by rwa [faithful.owner_eq]
  simp [release, kind, notOwner]

theorem Faithful.release_of_free (faithful : lock.Faithful) (kind : lock.kind = .plain)
    (isFree : lock.primitive.holder = none) : lock.release thread = (lock, some .alreadyFree) := by
  have noOwner : lock.owner = none := by rw [faithful.owner_eq, isFree]
  have same : { lock with owner := none } = lock := by rw [← noOwner]
  unfold release
  simp only [kind, PrimitiveLock.giveBack, isFree, Option.isNone_none, if_true]
  rw [← kind, same]

/-- Any thread can give a plain lock back that some thread holds. -/
theorem Faithful.release_of_held (faithful : lock.Faithful) (kind : lock.kind = .plain)
    (held : lock.primitive.holder ≠ none) :
    lock.release thread = ({ lock with primitive := .free, owner := none }, none) := by
  have once : ¬ 1 < lock.primitive.depth := Nat.not_lt.2 (faithful.depth_le_one kind)
  simp [release, kind, PrimitiveLock.giveBack, held, once]

/-- The holder of a reentrant lock gives it back once. -/
theorem Faithful.release_of_holder {thread : Int} (faithful : lock.Faithful) (kind : lock.kind = .reentrant)
    (holder : lock.primitive.holder = some thread) :
    lock.release thread =
      ({ lock with
          primitive :=
            if 1 < lock.primitive.depth then ⟨some thread, lock.primitive.depth - 1⟩ else .free
          owner := if lock.count - 1 = 0 then none else lock.owner
          count := lock.count - 1 }, none) := by
  have owner : lock.owner = some thread := by rw [faithful.owner_eq, holder]
  by_cases again : 1 < lock.primitive.depth
  · simp [release, kind, PrimitiveLock.giveBack, owner, holder, again]
  · simp [release, kind, PrimitiveLock.giveBack, owner, holder, again]

/-- A release keeps the notes of a lock right, whoever calls it. -/
theorem Faithful.release (faithful : lock.Faithful) : (lock.release thread).1.Faithful := by
  cases kind : lock.kind with
  | plain =>
    by_cases isFree : lock.primitive.holder = none
    · rw [faithful.release_of_free thread kind isFree]
      exact faithful
    · rw [faithful.release_of_held thread kind isFree]
      refine ⟨rfl, fun reentrant => ?_, Iff.intro (fun _ => rfl) fun _ => rfl, fun _ => Nat.zero_le 1⟩
      have reentrant : lock.kind = .reentrant := reentrant
      rw [kind] at reentrant
      cases reentrant
  | reentrant =>
    by_cases holder : lock.primitive.holder = some thread
    · rw [faithful.release_of_holder kind holder]
      have count := faithful.count_eq kind
      have taken : lock.primitive.depth ≠ 0 := fun zero => by
        rw [faithful.depth_eq_zero_iff.1 zero] at holder
        cases holder
      by_cases again : 1 < lock.primitive.depth
      · have more : lock.count - 1 ≠ 0 := by omega
        simp only [if_pos again, if_neg more]
        refine ⟨faithful.owner_eq.trans holder, fun _ => ?_, ?_, fun plain => ?_⟩
        · show lock.count - 1 = ((lock.primitive.depth - 1 : Nat) : Int)
          omega
        · show lock.primitive.depth - 1 = 0 ↔ some thread = none
          simp
          omega
        · have plain : lock.kind = .plain := plain
          rw [kind] at plain
          cases plain
      · have last : lock.count - 1 = 0 := by omega
        simp only [if_neg again, if_pos last]
        exact ⟨rfl, fun _ => last, Iff.intro (fun _ => rfl) fun _ => rfl, fun _ => Nat.zero_le 1⟩
    · rw [faithful.release_of_stranger kind holder]
      exact faithful

end Release

end ArenaLock

namespace Arena

/-! ### The arena -/

/-- **An arena whose notes are right.** -/
structure Faithful (arena : Arena) : Prop where
  lock : ∀ name lock, arena.locks.lookup name = some lock → lock.Faithful
  waiting_eq : ∀ thread,
    arena.waiting.lookup thread = (arena.blockedCall? thread).map BlockedCall.lock
  waiting_nodup : (arena.waiting.map Prod.fst).Nodup
  blocked_nodup : (arena.blocked.map BlockedCall.thread).Nodup

theorem faithful_fresh (findsPlain : Bool) (kinds : List (String × LockKind)) :
    (fresh findsPlain kinds).Faithful := by
  refine ⟨fun name lock present => ?_, fun _ => rfl, List.nodup_nil, List.nodup_nil⟩
  induction kinds with
  | nil => cases present
  | cons first rest ih =>
    obtain ⟨other, kind⟩ := first
    change List.lookup name ((other, ArenaLock.free kind) :: _) = some lock at present
    rw [List.lookup_cons] at present
    split at present
    · cases present
      exact ArenaLock.faithful_free kind
    · exact ih present

section Steps

variable {arena : Arena} (faithful : arena.Faithful)

include faithful

theorem Faithful.setLock {name : String} {lock : ArenaLock} (right : lock.Faithful) :
    (arena.setLock name lock).Faithful := by
  refine ⟨fun other found present => ?_, faithful.waiting_eq, faithful.waiting_nodup,
    faithful.blocked_nodup⟩
  rw [lookup_setLock] at present
  split at present
  · cases present
    exact right
  · exact faithful.lock other found present

theorem Faithful.beginWait {thread : Int} (idle : arena.blockedCall? thread = none) (name : String)
    (call : LockCall) : (arena.beginWait thread name call).Faithful := by
  refine ⟨faithful.lock, fun other => ?_, KeyedList.nodup_keys_set _ _ faithful.waiting_nodup, ?_⟩
  · rw [waiting_beginWait, blockedCall?_beginWait idle]
    split
    · rfl
    · exact faithful.waiting_eq other
  · have absent : thread ∉ arena.blocked.map BlockedCall.thread := fun member => by
      obtain ⟨blocked, member, same⟩ := List.mem_map.1 member
      have := List.find?_eq_none.1 idle blocked member
      simp [same] at this
    show ((arena.blocked ++ [_]).map BlockedCall.thread).Nodup
    rw [List.map_append, List.nodup_append]
    refine ⟨faithful.blocked_nodup, by simp, fun first member second other => ?_⟩
    rw [List.map_singleton, List.mem_singleton] at other
    subst other
    exact fun same => absent (same ▸ member)

theorem Faithful.giveUp (thread : Int) : (arena.giveUp thread).Faithful := by
  refine ⟨faithful.lock, fun other => ?_, KeyedList.nodup_keys_erase _ faithful.waiting_nodup,
    faithful.blocked_nodup.sublist (List.filter_sublist.map _)⟩
  rw [waiting_giveUp, blockedCall?_giveUp]
  split
  · rfl
  · exact faithful.waiting_eq other

/-- **Whatever a move does, it keeps the notes right.** -/
theorem Faithful.effect {after : Arena} {move : LockMove} (effect : Effect arena move after) :
    after.Faithful := by
  cases effect with
  | none => exact faithful
  | take thread name lock idle present admitted =>
    exact faithful.setLock ((faithful.lock name lock present).take admitted)
  | wait thread name call idle => exact faithful.beginWait idle name call
  | obtain thread blocked lock waits present admitted =>
    exact (faithful.giveUp thread).setLock ((faithful.lock _ lock present).take admitted)
  | giveUp move thread => exact faithful.giveUp thread
  | release thread name lock idle present =>
    exact faithful.setLock ((faithful.lock name lock present).release thread)

theorem Faithful.run (moves : List LockMove) : (arena.run moves).Faithful :=
  run_induction (fun arena move kept => kept.effect (effect_move arena move)) faithful moves

end Steps

theorem faithful_run (findsPlain : Bool) (kinds : List (String × LockKind)) (moves : List LockMove) :
    ((fresh findsPlain kinds).run moves).Faithful := (faithful_fresh findsPlain kinds).run moves

/-! ### What the notes tell -/

/-- **An arena whose notes can be relied on.** -/
structure KeepsBooks (arena : Arena) : Prop where
  /-- The owner of a lock is the thread that holds the primitive lock, and none when it is free. -/
  owner : ∀ name lock, arena.locks.lookup name = some lock → lock.owner = lock.primitive.holder
  /-- The count of a reentrant lock is how often its holder took it and did not give it back. -/
  count : ∀ name lock, arena.locks.lookup name = some lock → lock.kind = .reentrant →
    lock.count = lock.primitive.depth ∧ (lock.count = 0 ↔ lock.primitive.holder = none)
  /-- A plain lock that some thread holds can be given back by any thread, and is free then. -/
  foreign : ∀ thread name lock, arena.locks.lookup name = some lock → lock.kind = .plain →
    lock.primitive.holder ≠ none →
      (arena.release thread name).2 = none ∧
        ((arena.release thread name).1.locks.lookup name).map ArenaLock.primitive = some .free ∧
        ((arena.release thread name).1.locks.lookup name).map ArenaLock.owner = some none
  /-- The registry has a waiter exactly for each thread inside a call that waits, with its lock. -/
  waiter : ∀ thread, arena.waiting.lookup thread = (arena.blockedCall? thread).map BlockedCall.lock
  /-- No thread stands in the registry twice, nor is inside two calls. -/
  once : (arena.waiting.map Prod.fst).Nodup ∧ (arena.blocked.map BlockedCall.thread).Nodup
  /-- No way out of a call leaves the thread in the registry. -/
  left : ∀ thread, (arena.move (.timeOut thread)).waiting.lookup thread = none ∧
    (arena.move (.breakOff thread)).waiting.lookup thread = none ∧
    ∀ name after, arena.finishWait thread name = some after → after.waiting.lookup thread = none
  /-- The holder of a reentrant lock can give it back. -/
  holder : ∀ thread name lock, arena.locks.lookup name = some lock → lock.kind = .reentrant →
    lock.primitive.holder = some thread → (arena.release thread name).2 = none
  /-- A reentrant lock refuses a release by any thread but its holder, and nothing changes. -/
  stranger : ∀ thread name lock, arena.locks.lookup name = some lock → lock.kind = .reentrant →
    lock.primitive.holder ≠ some thread → arena.release thread name = (arena, some .notAcquired)
  /-- A plain lock refuses a release while it is free, and nothing changes. -/
  free : ∀ thread name lock, arena.locks.lookup name = some lock → lock.kind = .plain →
    lock.primitive.holder = none → arena.release thread name = (arena, some .alreadyFree)
  misuse : Failure.notAcquired.kind = .misuse ∧ Failure.alreadyFree.kind = .misuse

section Tell

variable {arena : Arena}

theorem release_of_lookup {name : String} {lock : ArenaLock} (present : arena.locks.lookup name = some lock)
    (thread : Int) :
    arena.release thread name = (arena.setLock name (lock.release thread).1, (lock.release thread).2) := by
  unfold release
  rw [present]

/-- A release that the lock refuses changes nothing. -/
theorem release_of_refused {name : String} {lock : ArenaLock} {thread : Int} {failure : Failure}
    (present : arena.locks.lookup name = some lock) (refused : lock.release thread = (lock, some failure)) :
    arena.release thread name = (arena, some failure) := by
  rw [release_of_lookup present, refused, setLock_eq_self present]

/-- A thread that waits is in the registry no more once it gave up. -/
theorem Faithful.waiting_ifWaiting_giveUp (faithful : arena.Faithful) (thread : Int) :
    (arena.ifWaiting thread fun _ => arena.giveUp thread).waiting.lookup thread = none := by
  unfold ifWaiting
  split
  · rename_i idle
    rw [faithful.waiting_eq, idle]
    rfl
  · rw [waiting_giveUp, if_pos rfl]

theorem Faithful.keepsBooks (faithful : arena.Faithful) : arena.KeepsBooks where
  owner name lock present := (faithful.lock name lock present).owner_eq
  count name lock present kind := by
    have right := faithful.lock name lock present
    have count := right.count_eq kind
    refine ⟨count, ?_⟩
    rw [count, ← right.depth_eq_zero_iff]
    omega
  foreign thread name lock present kind held := by
    rw [release_of_lookup present, (faithful.lock name lock present).release_of_held thread kind held]
    simp [lookup_setLock]
  waiter := faithful.waiting_eq
  once := ⟨faithful.waiting_nodup, faithful.blocked_nodup⟩
  left thread := by
    refine ⟨faithful.waiting_ifWaiting_giveUp thread, faithful.waiting_ifWaiting_giveUp thread,
      fun name after taken => ?_⟩
    obtain ⟨lock, _, _, rfl⟩ := tryAcquire_eq_some taken
    rw [waiting_setLock, waiting_giveUp, if_pos rfl]
  holder thread name lock present kind holder := by
    rw [release_of_lookup present, (faithful.lock name lock present).release_of_holder kind holder]
  stranger thread name lock present kind stranger :=
    release_of_refused present ((faithful.lock name lock present).release_of_stranger kind stranger)
  free thread name lock present kind isFree :=
    release_of_refused present ((faithful.lock name lock present).release_of_free thread kind isFree)
  misuse := ⟨rfl, rfl⟩

end Tell

/-- **In every state that a run reaches, the notes can be relied on.** -/
theorem run_keepsBooks (findsPlain : Bool) (kinds : List (String × LockKind)) (moves : List LockMove) :
    ((fresh findsPlain kinds).run moves).KeepsBooks := (faithful_run findsPlain kinds moves).keepsBooks

/-! ### Whole calls -/

section Calls

variable {arena : Arena} (faithful : arena.Faithful)

include faithful

/-- A call found among those that wait is the one of its thread. -/
theorem Faithful.blockedCall?_of_mem {blocked : BlockedCall} (member : blocked ∈ arena.blocked) :
    arena.blockedCall? blocked.thread = some blocked := by
  have distinct := faithful.blocked_nodup
  unfold blockedCall?
  generalize arena.blocked = calls at member distinct
  induction calls with
  | nil => cases member
  | cons first rest ih =>
    obtain ⟨absent, distinct⟩ := List.nodup_cons.1 distinct
    rcases List.mem_cons.1 member with rfl | member
    · simp
    · have other : first.thread ≠ blocked.thread := fun same =>
        absent (same ▸ List.mem_map.2 ⟨blocked, member, rfl⟩)
      rw [List.find?_cons_of_neg (by simpa using other)]
      exact ih member distinct

/-- A lock passes on by a move, if it does. -/
theorem Faithful.exists_run_passOn (name : String) :
    ∃ moves, (arena.passOn name).1 = arena.run moves := by
  unfold passOn
  split
  · exact ⟨[], rfl⟩
  · rename_i waiter found
    have waits := faithful.blockedCall?_of_mem (List.mem_of_find?_eq_some found)
    have same : waiter.lock = name := by simpa using List.find?_some found
    split
    · exact ⟨[], rfl⟩
    · rename_i after taken
      refine ⟨[.finishWait waiter.thread], ?_⟩
      show after = arena.ifWaiting waiter.thread _
      simp [ifWaiting, waits, same, taken]

/-- **A whole call of a thread is a run of moves.** -/
theorem Faithful.exists_run_call (thread : Int) (call : LockCall) (name : String) :
    ∃ moves, (arena.call thread call name).1 = arena.run moves := by
  unfold Arena.call
  cases idle : arena.blockedCall? thread with
  | some blocked => exact ⟨[], by simp⟩
  | none =>
    simp only [Option.isSome_none, Bool.false_eq_true, if_false]
    split
    · have released : (arena.release thread name).1 = arena.run [.release thread name] := by
        simp [move, ifIdle, idle]
      split
      · rename_i after failure result
        exact ⟨_, by rw [← released, result]⟩
      · rename_i after result
        have kept : after.Faithful := by
          have := faithful.run [.release thread name]
          rwa [← released, result] at this
        obtain ⟨moves, passed⟩ := kept.exists_run_passOn name
        refine ⟨.release thread name :: moves, ?_⟩
        rw [run_cons, ← run_nil (arena.move _), ← run_cons, ← released, result]
        exact passed
    · split
      · rename_i after taken
        exact ⟨[.attempt thread name], by simp [move, ifIdle, idle, taken]⟩
      · split
        · exact ⟨[], rfl⟩
        · exact ⟨[.beginWait thread name call], by simp [move, ifIdle, idle]⟩

end Calls

/-- **The end of a call's time is a move.** -/
theorem timeOut_eq_run (arena : Arena) (thread : Int) :
    (arena.timeOut thread).1 = arena.run [.timeOut thread] := by
  show _ = arena.ifWaiting thread _
  unfold timeOut ifWaiting
  cases arena.blockedCall? thread with
  | none => rfl
  | some blocked => rfl

end Arena

end HostWatch
