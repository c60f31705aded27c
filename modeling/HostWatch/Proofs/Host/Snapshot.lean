/-
**What a snapshot of the threads shows.**

A thread can end at any time, and with it its state file and its clock. A snapshot takes this into account:
where a file or a clock cannot be had, the state is unknown and the time is not measured. A state file that can be
read but does not close the name of its thread is not taken into account, and ends the snapshot.

* `Sight`: what a snapshot sees of a machine, the host and its platform.
* `ThreadItem.Shows`, `ThreadSnapshot.Shows`: what a snapshot is to tell, of one thread and of all.
* `LiveThread.Capturable`: a thread that is blocked, or whose state file closes its name if there is one; its clock
  reports no errors that are not expected.
* `takeSnapshot_shows_iff`: **a snapshot is taken, and shows all started threads, exactly when each of them can be
  captured**.
* `takeSnapshot_of_emptyFile`: one empty state file is enough to have none.
-/

import HostWatch.Host.LiveThreads
import HostWatch.Proofs.Stateful

namespace HostWatch

open Stateful

/-! ### What is seen of a machine -/

/-- A host and the platform that it is taken for. -/
structure Sight where
  host : Host
  platform : Platform

/-- What a machine lets see: a platform found out before holds on. -/
def Machine.sight (machine : Machine) : Sight :=
  ⟨machine.host, machine.platform.getD machine.host.findPlatform⟩

theorem endsAs_host : EndsAs Machine.sight Probe.host fun seen host => host = seen.host :=
  ⟨fun _ => rfl, fun _ _ => ⟨fun ends => (Except.ok.inj ends).symm, fun same => same ▸ rfl⟩⟩

theorem endsAs_platform : EndsAs Machine.sight platform fun seen found => found = seen.platform := by
  have run (machine : Machine) :
      (platform.run.run machine).1 = .ok machine.sight.platform ∧
        (platform.run.run machine).2.sight = machine.sight := by
    obtain ⟨host, known, cpus, ticks, size, source, limit, collections⟩ := machine
    cases known <;> exact ⟨rfl, rfl⟩
  refine ⟨fun machine => (run machine).2, fun machine found => ?_⟩
  rw [(run machine).1]
  exact ⟨fun ends => (Except.ok.inj ends).symm, fun same => same ▸ rfl⟩

/-! ### The clock of a thread -/

/-- The CPU time that a clock tells: none where it cannot be read. -/
def CpuClock.told : CpuClock → Int
  | nanos n => n
  | _ => -1

/-- The errors of a clock that are taken into account: a missing part, one of the operating system, or a number
beyond its range. -/
def CpuClock.Excused : CpuClock → Prop
  | fails error => error.isMissingPart ∨ error.isSystem ∨ error.isOverflow
  | _ => True

theorem LiveThread.cpuNanosOf_eq_ok_iff (threads : List LiveThread) (id nanos : Int) :
    cpuNanosOf threads (some id) = .ok nanos ↔
      (clockOf threads id).Excused ∧ nanos = (clockOf threads id).told := by
  unfold cpuNanosOf
  rw [Option.map_some]
  cases clockOf threads id with
  | none => exact ⟨fun read => ⟨trivial, (Except.ok.inj read).symm⟩, fun told => told.2 ▸ rfl⟩
  | nanos n => exact ⟨fun read => ⟨trivial, (Except.ok.inj read).symm⟩, fun told => told.2 ▸ rfl⟩
  | fails error =>
    have excused_iff : (error.isMissingPart || error.isSystem || error.isOverflow) = true ↔
        (CpuClock.fails error).Excused := by
      simp [CpuClock.Excused, or_assoc]
    dsimp only
    by_cases excused : (CpuClock.fails error).Excused
    · rw [if_pos (excused_iff.2 excused)]
      exact ⟨fun read => ⟨excused, (Except.ok.inj read).symm⟩, fun told => told.2 ▸ rfl⟩
    · rw [if_neg fun holds => excused (excused_iff.1 holds)]
      exact ⟨nofun, fun told => absurd told.1 excused⟩

/-! ### The state of a thread -/

namespace LiveThread

/-- The name of the state behind the name of a thread: the letter stands behind one more character. -/
def stateBehind (behind : List Char) : String :=
  (behind[1]?.bind fun letter => stateNames.lookup letter).getD unknownState

/-- A state file gives a thread a state: its letter is looked for behind the last closing parenthesis. -/
def Tells (text : List Char) (state : String) : Prop :=
  ∃ name behind, text = name ++ ')' :: behind ∧ ')' ∉ behind ∧ state = stateBehind behind

theorem exists_last_closing {text : List Char} (closed : ')' ∈ text) :
    ∃ name behind, text = name ++ ')' :: behind ∧ ')' ∉ behind := by
  obtain ⟨before, after, split, last⟩ := List.eq_append_cons_of_mem (List.mem_reverse.2 closed)
  refine ⟨after.reverse, before.reverse, ?_, fun member => last (List.mem_reverse.1 member)⟩
  have reversed := congrArg List.reverse split
  rwa [List.reverse_reverse, List.reverse_append, List.reverse_cons, List.append_assoc] at reversed

theorem behindName_append (name : List Char) {behind : List Char} (last : ')' ∉ behind) :
    ProcessStat.behindName (name ++ ')' :: behind) = .ok (behind.drop 1) := by
  have before : ∀ letter ∈ behind.reverse, (letter ≠ ')' : Bool) = true := by
    intro letter member
    have different : letter ≠ ')' := fun same => last (same ▸ List.mem_reverse.1 member)
    simpa using different
  unfold ProcessStat.behindName
  rw [if_pos (by simp), List.reverse_append, List.reverse_cons, List.append_assoc, List.singleton_append,
    List.takeWhile_append_of_pos before, List.takeWhile_cons_of_neg (by simp), List.append_nil, List.reverse_reverse]

/-- The state that is read from a file is the one it tells. -/
theorem stateIn_eq_ok_iff (text : List Char) (state : String) : stateIn text = .ok state ↔ Tells text state := by
  have told {name behind : List Char} (last : ')' ∉ behind) :
      stateIn (name ++ ')' :: behind) = .ok (stateBehind behind) := by
    unfold stateIn stateBehind
    rw [behindName_append name last, ← List.head?_drop]
    rfl
  constructor
  · intro read
    by_cases closed : ')' ∈ text
    · obtain ⟨name, behind, rfl, last⟩ := exists_last_closing closed
      exact ⟨name, behind, rfl, last, (Except.ok.inj ((told last).symm.trans read)).symm⟩
    · unfold stateIn ProcessStat.behindName at read
      rw [if_neg (by simpa using closed)] at read
      cases read
  · rintro ⟨name, behind, rfl, last, rfl⟩
    exact told last

theorem exists_tells_iff (text : List Char) : (∃ state, Tells text state) ↔ ')' ∈ text := by
  constructor
  · rintro ⟨state, name, behind, rfl, -⟩
    simp
  · intro closed
    obtain ⟨name, behind, split, last⟩ := exists_last_closing closed
    exact ⟨_, name, behind, split, last, rfl⟩

/-- The text of the state file of a thread among others, where there is one that can be read. -/
def stateText? (threads : List LiveThread) (platform : Platform) (thread : LiveThread) : Option (List Char) :=
  match thread.nativeId, platform with
  | some nativeId, .linux => (stateFileOf threads nativeId).read?
  | _, _ => none

/-- The state that the operating system gives a thread: the one that its state file tells, and an unknown one
without such a file. -/
def InSystemState (threads : List LiveThread) (platform : Platform) (thread : LiveThread) (state : String) : Prop :=
  match stateText? threads platform thread with
  | none => state = unknownState
  | some text => Tells text state

theorem endsAs_systemState (threads : List LiveThread) (thread : LiveThread) :
    EndsAs Machine.sight (systemState threads thread) fun seen state =>
      InSystemState threads seen.platform thread state := by
  unfold systemState
  cases native : thread.nativeId with
  | none =>
    unfold InSystemState stateText?
    rw [native]
    exact endsAs_pure unknownState
  | some nativeId =>
    refine (endsAs_platform.bind fun found => (?_ : EndsAs Machine.sight _ fun _ state =>
      InSystemState threads found thread state)).congr fun seen state => exists_eq_left
    unfold InSystemState stateText?
    rw [native]
    cases found with
    | linux =>
      dsimp only
      cases (stateFileOf threads nativeId).read? with
      | none => exact endsAs_pure unknownState
      | some text => exact (Probe.endsAs_ofExcept _).congr fun _ state => stateIn_eq_ok_iff text state
    | windows => exact endsAs_pure unknownState
    | unsupported => exact endsAs_pure unknownState

/-! ### One thread -/

/-- The state of a thread: blocked when it waits for a lock, and otherwise the one of the operating system. -/
def InState (registry : LockRegistry) (threads : List LiveThread) (platform : Platform) (thread : LiveThread)
    (state : String) : Prop :=
  if (registry.blockerOf thread.identity).isSome then state = blockedState
  else InSystemState threads platform thread state

/-- A thread that can be captured: its state file, when it is looked at, closes the name of the thread, and its clock
reports no other errors than those that are taken into account. -/
structure Capturable (registry : LockRegistry) (seen : Sight) (thread : LiveThread) : Prop where
  closed : registry.blockerOf thread.identity = none →
    ∀ text, stateText? seen.host.threads seen.platform thread = some text → ')' ∈ text
  excused : (clockOf seen.host.threads thread.identity).Excused

theorem exists_inState_iff (registry : LockRegistry) (threads : List LiveThread) (platform : Platform)
    (thread : LiveThread) :
    (∃ state, InState registry threads platform thread state) ↔ (registry.blockerOf thread.identity = none →
      ∀ text, stateText? threads platform thread = some text → ')' ∈ text) := by
  unfold InState InSystemState
  cases registry.blockerOf thread.identity with
  | some blocker => simp
  | none =>
    cases stateText? threads platform thread with
    | none => simp
    | some text => simpa using exists_tells_iff text

end LiveThread

/-- What a snapshot tells of a thread. -/
structure ThreadItem.Shows (registry : LockRegistry) (seen : Sight) (thread : LiveThread) (item : ThreadItem) : Prop
    where
  id_eq : thread.id = some item.id
  info_id_eq : item.info.id = item.id
  nativeId_eq : item.info.nativeId = thread.nativeId
  name_eq : item.info.name = thread.name
  daemon_eq : item.info.daemon = thread.daemon
  waitingOn_eq : item.info.waitingOn = (registry.blockerOf item.id).map Prod.fst
  ownerId_eq : item.info.ownerId = (registry.blockerOf item.id).bind fun (_, lock) => lock.owner
  ownerName_eq : item.info.ownerName = item.info.ownerId.bind (LiveThread.nameOf? seen.host.threads)
  stack_eq : item.info.stack = []
  /-- A thread is blocked exactly when it waits for a lock. -/
  blocked_iff : item.info.state = LiveThread.blockedState ↔ (registry.blockerOf item.id).isSome
  /-- Otherwise it is in the state that the operating system gives it, if that is known. -/
  state_of_unblocked : registry.blockerOf item.id = none →
    LiveThread.InSystemState seen.host.threads seen.platform thread item.info.state
  cpuNanos_eq : item.cpuNanos = (LiveThread.clockOf seen.host.threads item.id).told

namespace LiveThread

/-- The information on a thread in a state, without its stack. -/
def infoIn (registry : LockRegistry) (threads : List LiveThread) (thread : LiveThread) (state : String) :
    ThreadInfo where
  id := thread.identity
  nativeId := thread.nativeId
  name := thread.name
  daemon := thread.daemon
  state := state
  waitingOn := (registry.blockerOf thread.identity).map Prod.fst
  ownerId := (registry.blockerOf thread.identity).bind fun (_, lock) => lock.owner
  ownerName := ((registry.blockerOf thread.identity).bind fun (_, lock) => lock.owner).bind (nameOf? threads)
  stack := []

theorem endsAs_info (registry : LockRegistry) (thread : LiveThread) :
    EndsAs Machine.sight (thread.info registry false) fun seen info =>
      ∃ state, InState registry seen.host.threads seen.platform thread state ∧
        info = infoIn registry seen.host.threads thread state := by
  unfold info
  refine (endsAs_host.bind fun host => (?_ : EndsAs Machine.sight _ fun seen info =>
    ∃ state, InState registry host.threads seen.platform thread state ∧
      info = infoIn registry host.threads thread state)).congr fun seen info => exists_eq_left
  have told (state : String) : EndsAs Machine.sight (pure (infoIn registry host.threads thread state))
      fun _ info => info = infoIn registry host.threads thread state := endsAs_pure _
  dsimp only
  unfold InState
  split
  · exact (endsAs_pure blockedState).bind told
  · exact (endsAs_systemState host.threads thread).bind told

/-- What ends up in a snapshot for one thread. -/
def Becomes (registry : LockRegistry) (seen : Sight) (thread : LiveThread) (item : ThreadItem) : Prop :=
  ∃ state nanos, InState registry seen.host.threads seen.platform thread state ∧
    cpuNanosOf seen.host.threads thread.id = .ok nanos ∧
    item = ⟨thread.identity, infoIn registry seen.host.threads thread state, nanos⟩

theorem endsAs_item (registry : LockRegistry) (thread : LiveThread) :
    EndsAs Machine.sight (item registry thread) fun seen item => Becomes registry seen thread item := by
  unfold item
  refine ((endsAs_info registry thread).bind fun info => endsAs_host.bind fun host =>
    (Probe.endsAs_ofExcept (cpuNanosOf host.threads thread.id)).bind fun nanos =>
      endsAs_pure (⟨thread.identity, info, nanos⟩ : ThreadItem)).congr fun seen item => ?_
  constructor
  · rintro ⟨info, ⟨state, inState, rfl⟩, host, rfl, nanos, read, rfl⟩
    exact ⟨state, nanos, inState, read, rfl⟩
  · rintro ⟨state, nanos, inState, read, rfl⟩
    exact ⟨_, ⟨state, inState, rfl⟩, _, rfl, nanos, read, rfl⟩

theorem identity_eq {thread : LiveThread} {id : Int} (started : thread.id = some id) : thread.identity = id := by
  unfold identity
  rw [started]
  rfl

/-- A thread that was started becomes an item exactly when it can be captured. -/
theorem exists_becomes_iff (registry : LockRegistry) (seen : Sight) {thread : LiveThread}
    (started : thread.id.isSome) :
    (∃ item, Becomes registry seen thread item) ↔ thread.Capturable registry seen := by
  obtain ⟨id, id_eq⟩ := Option.isSome_iff_exists.1 started
  have identity_eq := identity_eq id_eq
  constructor
  · rintro ⟨item, state, nanos, inState, read, rfl⟩
    rw [id_eq, cpuNanosOf_eq_ok_iff] at read
    exact ⟨(exists_inState_iff ..).1 ⟨state, inState⟩, identity_eq ▸ read.1⟩
  · rintro ⟨closed, excused⟩
    obtain ⟨state, inState⟩ := (exists_inState_iff ..).2 closed
    rw [identity_eq] at excused
    exact ⟨_, state, _, inState, id_eq ▸ (cpuNanosOf_eq_ok_iff ..).2 ⟨excused, rfl⟩, rfl⟩

theorem Becomes.daemon_eq {registry : LockRegistry} {seen : Sight} {thread : LiveThread} {item : ThreadItem}
    (becomes : Becomes registry seen thread item) : item.info.daemon = thread.daemon := by
  obtain ⟨state, nanos, -, -, rfl⟩ := becomes
  rfl

/-- No letter stands for the state of a thread that waits for a lock. -/
theorem stateBehind_ne_blocked (behind : List Char) : stateBehind behind ≠ blockedState := by
  unfold stateBehind
  cases named : behind[1]?.bind fun letter => stateNames.lookup letter with
  | none => decide
  | some name =>
    obtain ⟨letter, -, found⟩ := Option.bind_eq_some_iff.1 named
    obtain ⟨before, after, split, -⟩ := List.lookup_eq_some_iff.1 found
    have others : ∀ entry ∈ stateNames, entry.2 ≠ blockedState := by decide
    exact others (letter, name) (split ▸ by simp)

theorem InSystemState.ne_blocked {threads : List LiveThread} {platform : Platform} {thread : LiveThread}
    {state : String} (inState : InSystemState threads platform thread state) : state ≠ blockedState := by
  unfold InSystemState at inState
  split at inState
  · rw [inState]
    decide
  · obtain ⟨name, behind, -, -, rfl⟩ := inState
    exact stateBehind_ne_blocked behind

theorem Becomes.shows {registry : LockRegistry} {seen : Sight} {thread : LiveThread} {item : ThreadItem}
    (started : thread.id.isSome) (becomes : Becomes registry seen thread item) :
    item.Shows registry seen thread := by
  obtain ⟨id, id_eq⟩ := Option.isSome_iff_exists.1 started
  obtain ⟨state, nanos, inState, read, rfl⟩ := becomes
  have identity_eq := identity_eq id_eq
  rw [id_eq, cpuNanosOf_eq_ok_iff] at read
  refine ⟨identity_eq ▸ id_eq, rfl, rfl, rfl, rfl, rfl, rfl, rfl, rfl, ?_, ?_, identity_eq ▸ read.2⟩
  · show state = blockedState ↔ (registry.blockerOf thread.identity).isSome
    unfold InState at inState
    split at inState
    · rename_i waits
      exact ⟨fun _ => waits, fun _ => inState⟩
    · rename_i goesOn
      exact ⟨fun blocked => absurd blocked inState.ne_blocked, fun waits => absurd waits goesOn⟩
  · intro goesOn
    unfold InState at inState
    rwa [if_neg (by simpa using goesOn)] at inState

end LiveThread

/-! ### All threads -/

/-- The threads that were started, in the order in which the host lists them. -/
def Sight.started (seen : Sight) : List LiveThread := seen.host.threads.filter fun thread => thread.id.isSome

/-- A snapshot tells of each thread that was started, once and in order. -/
structure ThreadSnapshot.Shows (registry : LockRegistry) (seen : Sight) (snapshot : ThreadSnapshot) : Prop where
  items : List.Forall₂ (ThreadItem.Shows registry seen) seen.started snapshot.items
  count_eq : snapshot.count = seen.started.length
  daemons_eq : snapshot.daemons = (seen.started.filter LiveThread.daemon).length
  takenAt_eq : snapshot.takenAt = seen.host.time

theorem endsAs_takeSnapshot (registry : LockRegistry) :
    EndsAs Machine.sight (takeSnapshot registry) fun seen snapshot =>
      ∃ items, List.Forall₂ (LiveThread.Becomes registry seen) seen.started items ∧
        snapshot = ⟨items, items.length, (seen.started.filter LiveThread.daemon).length, seen.host.time⟩ := by
  unfold takeSnapshot
  refine (endsAs_host.bind fun host =>
    (endsAs_mapM (LiveThread.endsAs_item registry) (host.threads.filter fun thread => thread.id.isSome)).bind
      fun items => endsAs_pure _).congr fun seen snapshot => exists_eq_left

/-- **A snapshot of the threads is taken, and shows what it is to show, exactly when each thread that was started can
be captured.** -/
theorem takeSnapshot_shows_iff (registry : LockRegistry) (machine : Machine) :
    (∃ snapshot, ((takeSnapshot registry).run.run machine).1 = .ok snapshot ∧
        snapshot.Shows registry machine.sight) ↔
      ∀ thread ∈ machine.host.threads, thread.id.isSome → thread.Capturable registry machine.sight := by
  have ends := (endsAs_takeSnapshot registry).ends_iff machine
  have capturable_iff :
      (∃ items, List.Forall₂ (LiveThread.Becomes registry machine.sight) machine.sight.started items) ↔
      ∀ thread ∈ machine.host.threads, thread.id.isSome → thread.Capturable registry machine.sight := by
    rw [exists_forall₂_iff]
    constructor
    · intro becomes thread member started
      exact (LiveThread.exists_becomes_iff registry machine.sight started).1
        (becomes thread (List.mem_filter.2 ⟨member, started⟩))
    · intro capturable thread member
      obtain ⟨member, started⟩ := List.mem_filter.1 member
      exact (LiveThread.exists_becomes_iff registry machine.sight started).2 (capturable thread member started)
  rw [← capturable_iff]
  constructor
  · rintro ⟨snapshot, taken, -⟩
    obtain ⟨items, becomes, -⟩ := (ends snapshot).1 taken
    exact ⟨items, becomes⟩
  · rintro ⟨items, becomes⟩
    refine ⟨_, (ends _).2 ⟨items, becomes, rfl⟩, ?_, congrArg Nat.cast becomes.length_eq.symm, rfl, rfl⟩
    refine List.forall₂_iff_zip.2 ⟨becomes.length_eq, fun paired => ?_⟩
    have started := (List.mem_filter.1 (List.of_mem_zip paired).1).2
    exact LiveThread.Becomes.shows started (List.forall₂_zip becomes paired)

/-- A host on which the state file of the only thread was emptied when the thread ended. -/
def Host.vanishing : Host :=
  { Host.bare with threads := [⟨some 1, some 7, "t", false, .none, .text "", []⟩] }

/-- **One empty state file is enough to have no snapshot.** -/
theorem takeSnapshot_of_emptyFile :
    ((takeSnapshot .empty).run.run (.ofHost Host.vanishing)).1.mapError Failure.message =
        .error (.ok "substring not found") ∧
      ¬ ∃ snapshot, ((takeSnapshot .empty).run.run (.ofHost Host.vanishing)).1 = .ok snapshot ∧
        snapshot.Shows .empty (Machine.ofHost Host.vanishing).sight := by
  have fails : ((takeSnapshot .empty).run.run (.ofHost Host.vanishing)).1.mapError Failure.message =
      .error (.ok "substring not found") := by
    decide +kernel
  refine ⟨fails, ?_⟩
  rintro ⟨snapshot, taken, -⟩
  rw [taken] at fails
  cases fails

end HostWatch
