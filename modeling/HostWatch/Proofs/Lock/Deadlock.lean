/-
**A reported deadlock is one for good.**

The registry reports the threads on cycles of its wait-for graph. The graph is made of notes; by
`Arena.Faithful` they are right, so that an edge stands for a thread inside a call that waits for a lock
in the hands of another thread. A reported thread waits for a reported thread, which is inside a call
itself and can neither give its lock back nor take another one.

* `LockRegistry.next?_edges`: the edge of a thread, read off what the registry notes about it.
* `Arena.Faithful.next?_monitor_iff`: **no false alarm.** An edge among the reentrant locks is a thread
  that waits for a lock which another thread holds.
* `Arena.Stuck`: **the invariant.** Each of some threads waits for a lock in the hands of another of them.
* `Arena.Stuck.same_run`: whatever the other threads do, the calls and the locks of stuck threads stay.
* `Arena.monitorDeadlocked_permanent`: a reported thread stays where it is and stays reported.
-/

import HostWatch.Proofs.Lock.Bookkeeping
import HostWatch.Proofs.Lock.Search

namespace HostWatch

/-! ### The edges of the registry -/

namespace LockRegistry

variable {registry : LockRegistry} {monitorsOnly : Bool}

/-- An edge leads from the thread that waits to the owner of its lock, if that is another thread. -/
theorem edge?_eq_some_iff {wait : Int × String} {edge : Int × Int} :
    registry.edge? monitorsOnly wait = some edge ↔
      edge.1 = wait.1 ∧ edge.2 ≠ wait.1 ∧ ∃ lock, registry.locks.lookup wait.2 = some lock ∧
        lock.owner = some edge.2 ∧ (monitorsOnly = true → lock.kind = .reentrant) := by
  obtain ⟨waiter, holder⟩ := edge
  unfold edge?
  cases present : registry.locks.lookup wait.2 with
  | none => simp
  | some lock =>
    cases owned : lock.owner with
    | none => simp [owned]
    | some owner =>
      cases kind : lock.kind with
      | plain => cases monitorsOnly <;> grind
      | reentrant => grind

/-- **The edge of a thread** hangs on what the registry notes about that thread only. -/
theorem next?_edges (distinct : (registry.waiting.map Prod.fst).Nodup) (thread : Int) :
    WaitGraph.next? (registry.edges monitorsOnly) thread =
      (registry.waiting.lookup thread).bind fun name =>
        (registry.edge? monitorsOnly (thread, name)).map Prod.snd := by
  unfold WaitGraph.next? edges
  generalize registry.waiting = waits at distinct
  induction waits with
  | nil => rfl
  | cons wait rest ih =>
    obtain ⟨waiter, name⟩ := wait
    obtain ⟨absent, distinct⟩ := List.nodup_cons.1 distinct
    have later := ih distinct
    by_cases own : thread = waiter
    · subst own
      have noMore : rest.lookup thread = none := by
        rw [List.lookup_eq_none_iff]
        intro other member
        have different : other.1 ≠ thread := fun same => absent (List.mem_map.2 ⟨other, member, same⟩)
        simpa using Ne.symm different
      rw [noMore] at later
      rw [List.lookup_cons_self, Option.bind_some]
      cases edge : registry.edge? monitorsOnly (thread, name) with
      | none =>
        rw [List.filterMap_cons_none edge, later]
        rfl
      | some pair =>
        obtain ⟨source, owner⟩ := pair
        have start : source = thread := (edge?_eq_some_iff.1 edge).1
        rw [List.filterMap_cons_some edge, start, List.lookup_cons_self]
        rfl
    · rw [List.lookup_cons, beq_false_of_ne own, ← later]
      cases edge : registry.edge? monitorsOnly (waiter, name) with
      | none => rw [List.filterMap_cons_none edge]
      | some pair =>
        obtain ⟨source, owner⟩ := pair
        have start : source = waiter := (edge?_eq_some_iff.1 edge).1
        rw [List.filterMap_cons_some edge, start, List.lookup_cons, beq_false_of_ne own]

end LockRegistry

namespace Arena

/-! ### Waiting for a monitor -/

/-- A thread waits for a reentrant lock in the hands of another thread. -/
def WaitsFor (arena : Arena) (thread holder : Int) : Prop :=
  ∃ blocked lock, arena.blockedCall? thread = some blocked ∧
    arena.locks.lookup blocked.lock = some lock ∧ lock.kind = .reentrant ∧
    lock.primitive.holder = some holder ∧ holder ≠ thread

/-- The edges among the reentrant locks. -/
abbrev monitorEdges (arena : Arena) : WaitGraph.Edges := arena.registry.edges true

theorem lookup_registry (arena : Arena) (name : String) :
    arena.registry.locks.lookup name =
      (arena.locks.lookup name).map fun lock => ⟨lock.kind, lock.owner⟩ :=
  KeyedList.lookup_map (fun lock : ArenaLock => (⟨lock.kind, lock.owner⟩ : TrackedLock)) name arena.locks

/-- **No false alarm**: the edges that the registry sees are threads that wait for each other. -/
theorem Faithful.next?_monitor_iff {arena : Arena} (faithful : arena.Faithful) (thread holder : Int) :
    WaitGraph.next? arena.monitorEdges thread = some holder ↔ arena.WaitsFor thread holder := by
  rw [LockRegistry.next?_edges faithful.waiting_nodup]
  change (arena.waiting.lookup thread).bind _ = _ ↔ _
  rw [faithful.waiting_eq]
  cases waits : arena.blockedCall? thread with
  | none =>
    refine iff_of_false (by simp) ?_
    rintro ⟨blocked, lock, found, _⟩
    rw [waits] at found
    cases found
  | some blocked =>
    show (LockRegistry.edge? _ true (thread, blocked.lock)).map Prod.snd = some holder ↔ _
    rw [Option.map_eq_some_iff]
    constructor
    · rintro ⟨⟨_, _⟩, edge, rfl⟩
      obtain ⟨_, other, tracked, present, owned, kind⟩ := LockRegistry.edge?_eq_some_iff.1 edge
      rw [lookup_registry, Option.map_eq_some_iff] at present
      obtain ⟨lock, present, rfl⟩ := present
      refine ⟨blocked, lock, waits, present, kind rfl, ?_, other⟩
      rw [← (faithful.lock _ lock present).owner_eq]
      exact owned
    · rintro ⟨_, lock, found, present, kind, held, other⟩
      cases waits.symm.trans found
      refine ⟨(thread, holder), LockRegistry.edge?_eq_some_iff.2 ⟨rfl, other, ⟨lock.kind, lock.owner⟩,
        ?_, ?_, fun _ => kind⟩, rfl⟩
      · rw [lookup_registry, present]
        rfl
      · rw [(faithful.lock _ lock present).owner_eq]
        exact held

/-! ### Stuck threads -/

/-- **Each of some threads waits for a lock in the hands of another of them.** -/
def Stuck (arena : Arena) (threads : Int → Prop) : Prop :=
  ∀ thread, threads thread → ∃ holder, threads holder ∧ arena.WaitsFor thread holder

/-- Two arenas in which some threads are inside the same calls, for locks in the same state. -/
structure SameFor (threads : Int → Prop) (arena after : Arena) : Prop where
  call : ∀ thread, threads thread → after.blockedCall? thread = arena.blockedCall? thread
  lock : ∀ thread, threads thread → ∀ blocked, arena.blockedCall? thread = some blocked →
    after.locks.lookup blocked.lock = arena.locks.lookup blocked.lock

variable {threads : Int → Prop} {arena after : Arena}

theorem SameFor.refl (arena : Arena) : SameFor threads arena arena :=
  ⟨fun _ _ => rfl, fun _ _ _ _ => rfl⟩

theorem SameFor.trans {last : Arena} (first : SameFor threads arena after)
    (second : SameFor threads after last) : SameFor threads arena last := by
  refine ⟨fun thread inside => (second.call thread inside).trans (first.call thread inside),
    fun thread inside blocked waits => ?_⟩
  have waits' : after.blockedCall? thread = some blocked := by rw [first.call thread inside, waits]
  exact (second.lock thread inside blocked waits').trans (first.lock thread inside blocked waits)

theorem SameFor.giveUp (arena : Arena) {leaver : Int} (outside : ¬ threads leaver) :
    SameFor threads arena (arena.giveUp leaver) := by
  refine ⟨fun thread inside => ?_, fun _ _ _ _ => rfl⟩
  have other : thread ≠ leaver := fun same => outside (same ▸ inside)
  rw [blockedCall?_giveUp, if_neg other]

theorem SameFor.waitsFor_iff (same : SameFor threads arena after) {thread : Int} (inside : threads thread)
    (holder : Int) : after.WaitsFor thread holder ↔ arena.WaitsFor thread holder := by
  unfold WaitsFor
  rw [same.call thread inside]
  constructor
  · rintro ⟨blocked, lock, waits, present, rest⟩
    exact ⟨blocked, lock, waits, by rwa [same.lock thread inside blocked waits] at present, rest⟩
  · rintro ⟨blocked, lock, waits, present, rest⟩
    exact ⟨blocked, lock, waits, by rwa [same.lock thread inside blocked waits], rest⟩

theorem Stuck.of_same (stuck : arena.Stuck threads) (same : SameFor threads arena after) :
    after.Stuck threads := by
  intro thread inside
  obtain ⟨holder, insideToo, waits⟩ := stuck thread inside
  exact ⟨holder, insideToo, (same.waitsFor_iff inside holder).2 waits⟩

section Stuck

variable (stuck : arena.Stuck threads)

include stuck

theorem Stuck.not_idle {thread : Int} (idle : arena.blockedCall? thread = none) : ¬ threads thread := by
  intro inside
  obtain ⟨_, _, blocked, _, waits, _⟩ := stuck thread inside
  rw [idle] at waits
  cases waits

/-- The lock for which a stuck thread waits is reentrant and in the hands of a stuck thread. -/
theorem Stuck.held {thread : Int} (inside : threads thread) {blocked : BlockedCall} {lock : ArenaLock}
    (waits : arena.blockedCall? thread = some blocked)
    (present : arena.locks.lookup blocked.lock = some lock) :
    lock.kind = .reentrant ∧ ∃ holder, threads holder ∧ holder ≠ thread ∧
      lock.primitive.holder = some holder := by
  obtain ⟨holder, insideToo, _, _, waits', present', kind, held, other⟩ := stuck thread inside
  cases waits.symm.trans waits'
  cases present.symm.trans present'
  exact ⟨kind, holder, insideToo, other, held⟩

/-- Such a lock admits no thread but its holder. -/
theorem Stuck.eq_of_admits {thread : Int} (inside : threads thread) {blocked : BlockedCall}
    {lock : ArenaLock} (waits : arena.blockedCall? thread = some blocked)
    (present : arena.locks.lookup blocked.lock = some lock) {other : Int}
    (admitted : lock.primitive.admits lock.kind other = true) : threads other ∧ other ≠ thread := by
  obtain ⟨kind, holder, insideToo, different, held⟩ := stuck.held inside waits present
  have same : holder = other := by simpa [PrimitiveLock.admits, kind, held] using admitted
  exact same ▸ ⟨insideToo, different⟩

/-- A lock that another thread than the stuck ones takes is none for which one of them waits. -/
theorem Stuck.same_setLock {taker : Int} (outside : ¬ threads taker) {name : String} {lock : ArenaLock}
    (present : arena.locks.lookup name = some lock)
    (admitted : lock.primitive.admits lock.kind taker = true) (taken : ArenaLock) :
    SameFor threads arena (arena.setLock name taken) := by
  refine ⟨fun _ _ => rfl, fun thread inside blocked waits => ?_⟩
  rw [lookup_setLock]
  split
  · rename_i same
    rw [← same] at present
    exact absurd (stuck.eq_of_admits inside waits present admitted).1 outside
  · rfl

/-- **Whatever a move does**, unless a stuck thread gives up, the stuck threads stay where they are. -/
theorem Stuck.same_effect (faithful : arena.Faithful) {move : LockMove}
    (stays : ∀ thread, threads thread → move.leaver? ≠ some thread) (effect : Effect arena move after) :
    SameFor threads arena after := by
  cases effect with
  | none => exact .refl arena
  | take taker name lock idle present admitted =>
    exact stuck.same_setLock (stuck.not_idle idle) present admitted _
  | wait waiter name call idle =>
    refine ⟨fun thread inside => ?_, fun _ _ _ _ => rfl⟩
    have other : thread ≠ waiter := fun same => stuck.not_idle idle (same ▸ inside)
    rw [blockedCall?_beginWait idle, if_neg other]
  | obtain taker blocked lock waits present admitted =>
    -- a stuck thread cannot take its lock, and no other thread can take the lock of a stuck one
    have outside : ¬ threads taker := fun inside =>
      (stuck.eq_of_admits inside waits present admitted).2 rfl
    have left := SameFor.giveUp arena outside
    exact left.trans ((stuck.of_same left).same_setLock outside present admitted _)
  | giveUp move leaver blocked kind waits => exact .giveUp arena fun inside => stays leaver inside kind
  | release giver name lock idle present =>
    refine ⟨fun _ _ => rfl, fun thread inside blocked waits => ?_⟩
    rw [lookup_setLock]
    split
    · rename_i same
      rw [← same] at present
      obtain ⟨kind, holder, insideToo, _, held⟩ := stuck.held inside waits present
      -- the holder waits itself, so whoever gives the lock back does not hold it
      have stranger : lock.primitive.holder ≠ some giver := by
        rw [held]
        intro own
        cases own
        exact stuck.not_idle idle insideToo
      rw [(faithful.lock _ lock present).release_of_stranger kind stranger, present]
    · rfl

end Stuck

/-- **Stuck threads stay where they are** in every run in which none of them gives up. -/
theorem Stuck.same_run {arena : Arena} (stuck : arena.Stuck threads) (faithful : arena.Faithful)
    (moves : List LockMove)
    (stays : ∀ move ∈ moves, ∀ thread, threads thread → move.leaver? ≠ some thread) :
    SameFor threads arena (arena.run moves) := by
  induction moves generalizing arena with
  | nil => exact .refl arena
  | cons first rest ih =>
    have effect := effect_move arena first
    have same := stuck.same_effect faithful (stays first List.mem_cons_self) effect
    exact same.trans (ih (stuck.of_same same) (faithful.effect effect) fun move member =>
      stays move (List.mem_cons_of_mem first member))

/-! ### Reported threads -/

theorem mem_monitorDeadlocked_iff (arena : Arena) (thread : Int) :
    thread ∈ arena.registry.monitorDeadlocked ↔
      WaitGraph.onCycle arena.monitorEdges thread = true := WaitGraph.mem_members_iff thread

theorem Faithful.stuck_monitorDeadlocked {arena : Arena} (faithful : arena.Faithful) :
    arena.Stuck (· ∈ arena.registry.monitorDeadlocked) := by
  intro thread reported
  have cycle := (mem_monitorDeadlocked_iff arena thread).1 reported
  obtain ⟨holder, edge⟩ := WaitGraph.exists_next?_of_onCycle cycle
  exact ⟨holder, (mem_monitorDeadlocked_iff arena holder).2 (WaitGraph.onCycle_of_next? cycle edge),
    (faithful.next?_monitor_iff thread holder).1 edge⟩

/-- Reported threads that stay where they are stay reported. -/
theorem Faithful.monitorDeadlocked_of_same {arena after : Arena} (faithful : arena.Faithful)
    (faithful' : after.Faithful) (same : SameFor (· ∈ arena.registry.monitorDeadlocked) arena after)
    {thread : Int} (reported : thread ∈ arena.registry.monitorDeadlocked) :
    thread ∈ after.registry.monitorDeadlocked := by
  rw [mem_monitorDeadlocked_iff] at reported ⊢
  refine WaitGraph.onCycle_congr (fun other cycle => ?_) reported
  have inside := (mem_monitorDeadlocked_iff arena other).2 cycle
  apply Option.ext
  intro holder
  rw [faithful'.next?_monitor_iff, faithful.next?_monitor_iff]
  exact same.waitsFor_iff inside holder

/-- **A reported thread is deadlocked for good.** It waits for a lock that a reported thread holds, and
unless a reported thread gives up, it is inside the same call ever after, for a lock that a reported
thread holds, and is reported ever after. -/
theorem monitorDeadlocked_permanent (findsPlain : Bool) (kinds : List (String × LockKind))
    (past future : List LockMove)
    (stays : ∀ move ∈ future,
      ∀ thread ∈ ((fresh findsPlain kinds).run past).registry.monitorDeadlocked,
        move.leaver? ≠ some thread) :
    let arena := (fresh findsPlain kinds).run past
    let later := arena.run future
    ∀ thread ∈ arena.registry.monitorDeadlocked,
      thread ∈ later.registry.monitorDeadlocked ∧
        ∃ blocked, arena.blockedCall? thread = some blocked ∧ later.blockedCall? thread = some blocked ∧
          ∃ holder ∈ arena.registry.monitorDeadlocked,
            arena.WaitsFor thread holder ∧ later.WaitsFor thread holder := by
  intro arena later thread reported
  have faithful : arena.Faithful := faithful_run findsPlain kinds past
  have stuck := faithful.stuck_monitorDeadlocked
  have same : SameFor (· ∈ arena.registry.monitorDeadlocked) arena later :=
    stuck.same_run faithful future stays
  obtain ⟨holder, reportedToo, waitsFor⟩ := stuck thread reported
  have ⟨blocked, _, waits, _⟩ := waitsFor
  refine ⟨faithful.monitorDeadlocked_of_same (faithful.run future) same reported, blocked, waits, ?_,
    holder, reportedToo, waitsFor, (same.waitsFor_iff reported holder).2 waitsFor⟩
  rw [same.call thread reported, waits]

/-- Two threads wait for each other while a third one comes and goes. -/
theorem monitorDeadlocked_permanent_two :
    let arena := (fresh true [("a", .reentrant), ("b", .reentrant)]).run
      [.attempt 1 "a", .attempt 2 "b", .beginWait 1 "b" .acquire, .beginWait 2 "a" .acquireTimed]
    let later := arena.run
      [.beginWait 3 "a" .acquireTimed, .finishWait 1, .timeOut 3, .release 3 "b", .attempt 3 "a"]
    1 ∈ arena.registry.monitorDeadlocked ∧ 1 ∈ later.registry.monitorDeadlocked := by
  intro arena later
  have reported : 1 ∈ arena.registry.monitorDeadlocked :=
    (mem_monitorDeadlocked_iff arena 1).2 (by decide)
  have notThird : 3 ∉ arena.registry.monitorDeadlocked := fun member => by
    have cycle := (mem_monitorDeadlocked_iff arena 3).1 member
    revert cycle
    decide
  have leavers : ∀ move ∈ [LockMove.beginWait 3 "a" .acquireTimed, .finishWait 1, .timeOut 3,
      .release 3 "b", .attempt 3 "a"], move.leaver? = none ∨ move.leaver? = some 3 := by decide
  refine ⟨reported, (monitorDeadlocked_permanent true _ _ _ (fun move member thread inside leaver => ?_)
    1 reported).1⟩
  rcases leavers move member with none | third
  · rw [none] at leaver
    cases leaver
  · cases third.symm.trans leaver
    exact notThird inside

end Arena

end HostWatch
