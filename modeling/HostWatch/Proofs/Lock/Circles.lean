/-
**Which threads a registry reports.**

A thread waits for the owner of its lock, if that is another thread. What the registry reports are the threads
from which following these waits leads back, in whatever order the threads began to wait.

* `LockRegistry.WaitsFor`: the waits, read off what the registry notes; only those for reentrant locks, if
  that is asked.
* `LockRegistry.Finds`: **the threads in a circle of waiting, and no others**, in ascending order. A thread
  that merely waits for one in a circle is none of them.
* `LockRegistry.finds_deadlocks`: this is what a search finds, among all locks or the reentrant ones, and it
  does not hang on the order of the waits.
-/

import HostWatch.Proofs.Lock.Deadlock

namespace HostWatch.LockRegistry

/-- A thread waits for a lock that another thread owns; the lock has to be reentrant, if that is asked. -/
def WaitsFor (registry : LockRegistry) (monitorsOnly : Bool) (thread owner : Int) : Prop :=
  ∃ name lock, registry.waiting.lookup thread = some name ∧ registry.locks.lookup name = some lock ∧
    lock.owner = some owner ∧ owner ≠ thread ∧ (monitorsOnly = true → lock.kind = .reentrant)

/-- Following the waits at least once leads from a thread to another one. -/
abbrev WaitsOn (registry : LockRegistry) (monitorsOnly : Bool) : Int → Int → Prop :=
  Relation.TransGen (registry.WaitsFor monitorsOnly)

/-- **The threads in a circle of waiting, and no others**, each once and in ascending order. -/
structure Finds (registry : LockRegistry) (monitorsOnly : Bool) (found : List Int) : Prop where
  ascending : found.Pairwise (· < ·)
  mem_iff : ∀ thread, thread ∈ found ↔ registry.WaitsOn monitorsOnly thread thread
  /-- A thread that waits on another one, which does not wait on it, is not found. -/
  bystander : ∀ thread other, registry.WaitsOn monitorsOnly thread other →
    ¬ registry.WaitsOn monitorsOnly other thread → thread ∉ found

variable {registry : LockRegistry}

/-- The edges of the wait-for graph are the waits. -/
theorem edge_eq_waitsFor (distinct : (registry.waiting.map Prod.fst).Nodup) (monitorsOnly : Bool) :
    WaitGraph.Edge (registry.edges monitorsOnly) = registry.WaitsFor monitorsOnly := by
  funext thread owner
  unfold WaitGraph.Edge WaitsFor
  rw [next?_edges distinct, Option.bind_eq_some_iff, eq_iff_iff]
  refine exists_congr fun name => ?_
  simp only [Option.map_eq_some_iff, edge?_eq_some_iff]
  constructor
  · rintro ⟨noted, edge, ⟨-, other, lock, present, owned, kind⟩, rfl⟩
    exact ⟨lock, noted, present, owned, other, kind⟩
  · rintro ⟨lock, noted, present, owned, other, kind⟩
    exact ⟨noted, (thread, owner), ⟨rfl, other, lock, present, owned, kind⟩, rfl⟩

theorem finds_cycles (distinct : (registry.waiting.map Prod.fst).Nodup) (monitorsOnly : Bool) :
    registry.Finds monitorsOnly (registry.cycles monitorsOnly) := by
  have waits : WaitGraph.Leads (registry.edges monitorsOnly) = registry.WaitsOn monitorsOnly :=
    congrArg Relation.TransGen (edge_eq_waitsFor distinct monitorsOnly)
  refine ⟨WaitGraph.members_ascending, fun thread => ?_, fun thread other leads away inside => ?_⟩
  · rw [← waits]
    exact WaitGraph.mem_members thread
  · have cycle := (WaitGraph.mem_members thread).1 inside
    rw [← waits] at leads away
    exact away (WaitGraph.leads_back cycle leads.to_reflTransGen)

/-- **What is found is determined** by the waits. -/
theorem Finds.eq_of_waitsFor {other : LockRegistry} {monitorsOnly : Bool} {found found' : List Int}
    (finds : registry.Finds monitorsOnly found) (finds' : other.Finds monitorsOnly found')
    (same : other.WaitsFor monitorsOnly = registry.WaitsFor monitorsOnly) : found' = found := by
  have members : ∀ thread, thread ∈ found' ↔ thread ∈ found := by
    intro thread
    rw [finds'.mem_iff, finds.mem_iff, WaitsOn, WaitsOn, same]
  exact List.Perm.eq_of_pairwise (fun a b _ _ less greater => (Int.lt_asymm less greater).elim)
    finds'.ascending finds.ascending ((List.perm_ext_iff_of_nodup (finds'.ascending.imp Int.ne_of_lt)
      (finds.ascending.imp Int.ne_of_lt)).2 members)

/-- The order in which threads began to wait does not change the waits. -/
theorem waitsFor_of_perm (distinct : (registry.waiting.map Prod.fst).Nodup) {waiting : List (Int × String)}
    (reordered : waiting.Perm registry.waiting) (monitorsOnly : Bool) :
    ({ registry with waiting } : LockRegistry).WaitsFor monitorsOnly = registry.WaitsFor monitorsOnly := by
  funext thread owner
  unfold WaitsFor
  rw [KeyedList.lookup_perm reordered distinct]

/-- **The registry finds exactly the deadlocked threads**: those in a circle of waiting, among all locks or
among the reentrant ones; without the owners of plain locks it looks among the reentrant ones only. The order
in which the threads began to wait does not matter. -/
theorem finds_deadlocks (registry : LockRegistry) (distinct : (registry.waiting.map Prod.fst).Nodup) :
    (∀ monitorsOnly, registry.Finds monitorsOnly (registry.cycles monitorsOnly)) ∧
      registry.Finds true registry.monitorDeadlocked ∧
      registry.Finds (!registry.findsPlain) registry.deadlocked ∧
      ∀ waiting : List (Int × String), waiting.Perm registry.waiting →
        ∀ monitorsOnly, ({ registry with waiting } : LockRegistry).cycles monitorsOnly =
          registry.cycles monitorsOnly := by
  refine ⟨finds_cycles distinct, finds_cycles distinct true, ?_, fun waiting reordered monitorsOnly => ?_⟩
  · unfold deadlocked
    cases findsPlain : registry.findsPlain with
    | true => exact finds_cycles distinct false
    | false => exact finds_cycles distinct true
  · have distinct' : (waiting.map Prod.fst).Nodup := (reordered.map Prod.fst).nodup_iff.2 distinct
    exact (finds_cycles distinct monitorsOnly).eq_of_waitsFor (finds_cycles distinct' monitorsOnly)
      (waitsFor_of_perm distinct reordered monitorsOnly)

/-- Three threads in a circle, one that waits on them, one whose lock is its own, one whose lock is free, and
two more in a circle through a plain lock. -/
def crowded : LockRegistry where
  findsPlain := true
  locks := [("a", ⟨.reentrant, some 3⟩), ("b", ⟨.reentrant, some 1⟩), ("c", ⟨.reentrant, some 2⟩),
    ("own", ⟨.plain, some 6⟩), ("free", ⟨.plain, none⟩), ("d", ⟨.plain, some 9⟩), ("e", ⟨.reentrant, some 8⟩)]
  waiting := [(4, "a"), (9, "e"), (2, "b"), (3, "c"), (6, "own"), (1, "a"), (7, "free"), (8, "d")]

/-- Among them the five in a circle are found, and only the first three among the reentrant locks. -/
theorem finds_deadlocks_crowded :
    crowded.Finds false crowded.deadlocked ∧ crowded.Finds true crowded.monitorDeadlocked ∧
      (∀ thread ∈ [1, 2, 3], thread ∈ crowded.monitorDeadlocked) ∧
      ∀ thread ∈ [8, 9], thread ∈ crowded.deadlocked ∧ thread ∉ crowded.monitorDeadlocked := by
  obtain ⟨-, monitors, all, -⟩ := finds_deadlocks crowded (by decide)
  have reported (thread : Int) : thread ∈ crowded.deadlocked ↔
      WaitGraph.onCycle (crowded.edges false) thread = true := WaitGraph.mem_members_iff thread
  have onMonitors (thread : Int) : thread ∈ crowded.monitorDeadlocked ↔
      WaitGraph.onCycle (crowded.edges true) thread = true := WaitGraph.mem_members_iff thread
  refine ⟨all, monitors, ?_, ?_⟩
  · simp only [onMonitors]
    decide
  · simp only [reported, onMonitors]
    decide

end HostWatch.LockRegistry
