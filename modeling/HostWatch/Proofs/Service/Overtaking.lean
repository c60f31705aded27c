/-
**No task starves.**

A task that is overdue comes before every task that is put back from now on: the run of such a task ends later than
now, and its delay leads on from there. So each other task runs at most once more before the overdue one, for the run
that it already waits for.

* `TimeScale.Forward`: a scale on which delays lead on. `TimeScale.forward_exact`, `TimeScale.forward_binarySeconds`:
  the scales of the project are such, the rounded one as well.
* `Roster.count_ahead_le`: **on a roster no other task runs twice before one that is overdue.**
* `ThreadScene.GoesOn`: what a scene comes to has its runs and some that end later.
* `ThreadScene.run_overtakesOnce`: **between two runs of any service each pending task that is overdue is overtaken at
  most once by each other one.** It stays with the service until it runs, fewer runs than there are tasks begin before
  its own, and a thread that is not stopped goes on to begin runs.
-/

import HostWatch.Proofs.Binary64.Order
import HostWatch.Proofs.Service.Schedule
import Mathlib.Data.List.Perm.Subperm
import Mathlib.Data.List.TakeWhile

namespace HostWatch

/-! ### Delays that lead on -/

namespace TimeScale

/-- **A scale on which delays lead on**: none that is not negative leads from a reading of the clock to a moment before
an earlier reading. -/
def Forward (scale : TimeScale) : Prop :=
  ∀ earlier later delay, earlier ≤ later → 0 ≤ delay → scale.due earlier 0 ≤ scale.due later delay

theorem forward_exact : exact.Forward := by
  intro earlier later delay le nonneg
  show earlier + 0 ≤ later + delay
  omega

section BinarySeconds

open Binary64

theorem exists_nanosPerSecond : ∃ significand exponent, significand ≠ 0 ∧
    ofInt 1000000000 = .finite false significand exponent :=
  ⟨8388608000000000, 1051, by decide, by decide +kernel⟩

theorem inFormat_clockSeconds (clock : Int) : (clockSeconds clock).InFormat := by
  obtain ⟨significand, exponent, nonzero, is⟩ := exists_nanosPerSecond
  unfold clockSeconds
  rw [is]
  exact inFormat_div nonzero (inFormat_ofInt _)

theorem clockSeconds_le_clockSeconds {earlier later : Int} (le : earlier ≤ later) :
    (clockSeconds earlier).toUnits ≤ (clockSeconds later).toUnits := by
  obtain ⟨significand, exponent, nonzero, is⟩ := exists_nanosPerSecond
  have nanos : earlier * nanosPerMilli ≤ later * nanosPerMilli :=
    Int.mul_le_mul_of_nonneg_right le (by decide)
  unfold clockSeconds
  rw [is]
  exact toUnits_div_le_toUnits_div nonzero (inFormat_ofInt _) (inFormat_ofInt _)
    (nearest_le_nearest Nat.one_pos nanos)

/-- A delay that is not negative is finite in seconds, and not negative either. -/
theorem exists_delaySeconds_of_nonneg {delay : Int} (nonneg : 0 ≤ delay) :
    ∃ significand exponent, delaySeconds delay = .finite false significand exponent := by
  obtain ⟨milliseconds, rfl⟩ := Int.eq_ofNat_of_zero_le nonneg
  have cases := ofQuotient_eq_or milliseconds (by decide : 0 < 1000)
  rw [Int.cast_ofNat_Int] at cases
  unfold delaySeconds
  rcases cases with is | ⟨significand, exponent, is⟩
  · rw [is]
    exact ⟨0, 0, rfl⟩
  · rw [is]
    exact ⟨significand, exponent, rfl⟩

theorem delaySeconds_zero : delaySeconds 0 = .finite false 0 0 := by decide +kernel

/-- **Rounding does not keep delays from leading on**: a sum is rounded to the same moment as a smaller one at
least. -/
theorem forward_binarySeconds : binarySeconds.Forward := by
  intro earlier later delay le nonneg
  obtain ⟨significand, exponent, is⟩ := exists_delaySeconds_of_nonneg nonneg
  show ((clockSeconds earlier).add (delaySeconds 0)).toUnits ≤ ((clockSeconds later).add (delaySeconds delay)).toUnits
  rw [delaySeconds_zero, is]
  refine toUnits_add_le_toUnits_add (inFormat_clockSeconds _) (inFormat_clockSeconds _)
    (clockSeconds_le_clockSeconds le) ?_
  have none : magnitude 0 0 = 0 := Nat.zero_mul _
  show signed false (magnitude 0 0) ≤ signed false (magnitude significand exponent)
  rw [none]
  exact Int.natCast_nonneg _

end BinarySeconds

end TimeScale

/-! ### Overtaking on a roster -/

/-- A delay that is not negative, if the task has one. -/
def Task.Steady {A : Type} (task : Task A) : Prop := ∀ delay, task.delay? = some delay → 0 ≤ delay

/-- The numbers in front of the first one that is a given one. -/
def ahead (number : Nat) (numbers : List Nat) : List Nat := numbers.takeWhile fun other => other ≠ number

theorem ahead_cons_self (number : Nat) (numbers : List Nat) : ahead number (number :: numbers) = [] :=
  List.takeWhile_cons_of_neg (by simp)

theorem ahead_cons_of_ne {first number : Nat} (apart : first ≠ number) (numbers : List Nat) :
    ahead number (first :: numbers) = first :: ahead number numbers :=
  List.takeWhile_cons_of_pos (by simpa using apart)

theorem ahead_subset (number : Nat) (numbers : List Nat) : ahead number numbers ⊆ numbers :=
  (List.takeWhile_sublist _).subset

theorem notMem_ahead_self (number : Nat) (numbers : List Nat) : number ∉ ahead number numbers := fun member => by
  simpa using List.mem_takeWhile_imp member

theorem ahead_of_notMem {number : Nat} {numbers : List Nat} (absent : number ∉ numbers) :
    ahead number numbers = numbers :=
  List.takeWhile_eq_self_iff.2 fun _ member => decide_eq_true fun same => absent (same ▸ member)

namespace Roster

variable {A : Type} {scale : TimeScale} {roster : Roster A} {task : Task A}

/-- The numbers of the runs, given when each of them ends. -/
def numbers (scale : TimeScale) (roster : Roster A) (endings : List Int) : List Nat :=
  (roster.runs scale endings).map fun run => run.task.number

theorem notLater_of_next? {first other : Task A} (next : roster.next? = some first)
    (member : other ∈ roster.pending) : first.NotLater other := by
  have every := List.find?_some next
  simp only [List.all_eq_true, decide_eq_true_eq] at every
  exact every other member

/-- The tasks of a number that all come behind a task do not overtake it. -/
theorem notMem_ahead (member : task ∈ roster.pending) {number : Nat} (apart : number ≠ task.number)
    (behind : ∀ other ∈ roster.pending, other.number = number → task.due < other.due) (endings : List Int) :
    number ∉ ahead task.number (roster.numbers scale endings) := by
  unfold numbers
  induction endings generalizing roster with
  | nil => exact List.not_mem_nil
  | cons ending endings ih =>
    rw [runs]
    cases next : roster.next? with
    | none => exact List.not_mem_nil
    | some first =>
      show number ∉ ahead task.number (first.number :: _)
      by_cases itself : first.number = task.number
      · rw [itself, ahead_cons_self]
        exact List.not_mem_nil
      · have other : number ≠ first.number := by
          rintro rfl
          have := behind first (mem_of_next? next) rfl
          have notLater := notLater_of_next? next member
          unfold Task.NotLater at notLater
          omega
        rw [ahead_cons_of_ne itself]
        refine List.not_mem_cons_of_ne_of_not_mem other (ih ?_ fun again present same => ?_)
        · exact (mem_complete_iff scale ending).2 (.inr ⟨member, fun eq => itself eq.symm⟩)
        · rcases (mem_complete_iff scale ending).1 present with is | ⟨present, -⟩
          · exact absurd (same.symm.trans (Task.number_of_again? is)) other
          · exact behind again present same

/-- **No other task runs twice before one that is overdue**: when it is put back after its run, it comes behind. -/
theorem count_ahead_le (member : task ∈ roster.pending) {number : Nat} (apart : number ≠ task.number)
    (steady : ∀ other ∈ roster.pending, other.number = number → other.Steady) {endings : List Int}
    (overdue : ∀ ending ∈ endings, ∀ delay, 0 ≤ delay → task.due < scale.due ending delay) :
    (ahead task.number (roster.numbers scale endings)).count number ≤ 1 := by
  induction endings generalizing roster with
  | nil => exact Nat.zero_le 1
  | cons ending endings ih =>
    obtain ⟨late, overdue⟩ := List.forall_mem_cons.1 overdue
    unfold numbers
    rw [runs]
    cases next : roster.next? with
    | none => exact Nat.zero_le 1
    | some first =>
      show (ahead task.number (first.number :: (roster.complete scale first ending).numbers scale endings)).count
        number ≤ 1
      by_cases itself : first.number = task.number
      · rw [itself, ahead_cons_self]
        exact Nat.zero_le 1
      · have pending : task ∈ (roster.complete scale first ending).pending :=
          (mem_complete_iff scale ending).2 (.inr ⟨member, fun eq => itself eq.symm⟩)
        rw [ahead_cons_of_ne itself]
        by_cases same : first.number = number
        -- What is left of the number is the task that has just run, due from its ending on.
        · have behind : ∀ other ∈ (roster.complete scale first ending).pending, other.number = number →
              task.due < other.due := by
            intro other present is
            rcases (mem_complete_iff scale ending).1 present with again | ⟨-, different⟩
            · obtain ⟨delay, delayed, rfl⟩ := Option.map_eq_some_iff.1 again
              exact late delay (steady first (mem_of_next? next) same delay delayed)
            · exact absurd (is.trans same.symm) different
          have gone : number ∉ ahead task.number ((roster.complete scale first ending).numbers scale endings) :=
            notMem_ahead pending apart behind endings
          rw [same, List.count_cons_self, List.count_eq_zero_of_not_mem gone]
        · rw [List.count_cons_of_ne same]
          refine ih pending (fun other present is => ?_) overdue
          rcases (mem_complete_iff scale ending).1 present with again | ⟨present, -⟩
          · exact absurd ((Task.number_of_again? again).symm.trans is) same
          · exact steady other present is

/-- **Fewer runs than there are tasks begin before one that is overdue.** -/
theorem length_ahead_lt (member : task ∈ roster.pending)
    (steady : ∀ other ∈ roster.pending, other.number ≠ task.number → other.Steady) {endings : List Int}
    (overdue : ∀ ending ∈ endings, ∀ delay, 0 ≤ delay → task.due < scale.due ending delay) :
    (ahead task.number (roster.numbers scale endings)).length < roster.pending.length := by
  have self := notMem_ahead_self task.number (roster.numbers scale endings)
  have nodup : (ahead task.number (roster.numbers scale endings)).Nodup := by
    refine List.nodup_iff_count_le_one.2 fun number => ?_
    by_cases apart : number = task.number
    · rw [apart, List.count_eq_zero_of_not_mem self]
      exact Nat.zero_le 1
    · exact count_ahead_le member apart (fun other present is => steady other present (is ▸ apart)) overdue
  have subset : task.number :: ahead task.number (roster.numbers scale endings) ⊆ roster.pending.map Task.number := by
    intro number present
    rcases List.mem_cons.1 present with rfl | present
    · exact List.mem_map_of_mem member
    · by_contra absent
      refine number_notMem_runs scale (fun other pending same => absent ?_) endings (ahead_subset _ _ present)
      exact same ▸ List.mem_map_of_mem pending
  have := (List.Nodup.subperm (List.nodup_cons.2 ⟨self, nodup⟩) subset).length_le
  rwa [List.length_map, List.length_cons] at this

/-- A task stays pending until it runs. -/
theorem mem_after (member : task ∈ roster.pending) {endings : List Int}
    (absent : task.number ∉ roster.numbers scale endings) : task ∈ (roster.after scale endings).pending := by
  unfold numbers at absent
  induction endings generalizing roster with
  | nil => exact member
  | cons ending endings ih =>
    rw [runs] at absent
    rw [after]
    cases next : roster.next? with
    | none => exact member
    | some first =>
      rw [next] at absent
      have apart := List.ne_of_not_mem_cons absent
      exact ih ((mem_complete_iff scale ending).2 (.inr ⟨member, apart⟩)) (List.not_mem_of_not_mem_cons absent)

end Roster

/-! ### Scenes that go on -/

namespace ThreadScene

variable {A W : Type} {conduct : Conduct A W} {scale : TimeScale} {roster : Roster A}
  {scene middle after : ThreadScene A W} {task : Task A}

/-- **What a scene comes to**: the clock does not go back, and the log keeps its runs and gets some that end
later. -/
structure GoesOn (scene after : ThreadScene A W) : Prop where
  clock_le : scene.line.clock ≤ after.line.clock
  later : ∃ fresh, after.endings = scene.endings ++ fresh ∧ ∀ ending ∈ fresh, scene.line.clock ≤ ending

namespace GoesOn

theorem of_endings_eq (clock_le : scene.line.clock ≤ after.line.clock) (same : after.endings = scene.endings) :
    scene.GoesOn after :=
  ⟨clock_le, [], by rw [same, List.append_nil], nofun⟩

theorem refl (scene : ThreadScene A W) : scene.GoesOn scene := of_endings_eq (Int.le_refl _) rfl

theorem trans (first : scene.GoesOn middle) (second : middle.GoesOn after) : scene.GoesOn after := by
  obtain ⟨clock_le, fresh, first, late⟩ := first
  obtain ⟨clock_le', fresh', second, late'⟩ := second
  refine ⟨Int.le_trans clock_le clock_le', fresh ++ fresh', ?_, ?_⟩
  · rw [second, first, List.append_assoc]
  · exact List.forall_mem_append.2 ⟨late, fun ending member => Int.le_trans clock_le (late' ending member)⟩

end GoesOn

theorem Follows.goesOn_turn (follows : scene.Follows scale roster) {limit : Int} {line : Timeline A W}
    (turn : Timeline.Turn conduct limit scene.line line) : scene.GoesOn (scene.afterTurn line) := by
  cases turn with
  | @finish task ending runs come =>
    obtain ⟨start, current⟩ := (follows.current?_eq_some_iff task).2 ⟨ending, runs⟩
    have logged := runs_afterTurn_of_running runs current (scene.line.finish conduct task ending)
    have le : scene.line.clock ≤ max scene.line.clock ending := Int.le_max_left ..
    refine ⟨le, [max scene.line.clock ending], ?_, List.forall_mem_singleton.2 le⟩
    unfold endings
    rw [logged, List.map_append]
    rfl
  | stop between isOver => exact .of_endings_eq (Int.le_refl _) (endings_afterTurn_of_between between _)
  | sleep waits next early => exact .of_endings_eq (Int.le_refl _) (endings_afterTurn_of_between (.inl waits) _)
  | begin waits goes next due => exact .of_endings_eq (Int.le_refl _) (endings_afterTurn_of_between (.inl waits) _)
  | @wake task rest ending sleeps goes next come =>
    exact .of_endings_eq (Int.le_max_left ..) (endings_afterTurn_of_between (.inr ⟨ending, sleeps⟩) _)

theorem Follows.goesOn_happen (follows : scene.Follows scale roster) (event : ThreadEvent W) :
    scene.GoesOn (scene.happen conduct event) := by
  cases event with
  | turn limit =>
    cases turns : scene.line.turn? conduct limit with
    | none =>
      rw [happen_turn_of_none conduct turns]
      exact .refl _
    | some line =>
      rw [happen_turn_of_some conduct turns]
      exact follows.goesOn_turn (Timeline.turn_of_turn? turns)
  | pass now =>
    unfold ThreadScene.happen
    dsimp only
    split
    · rename_i passes
      exact .of_endings_eq passes.1 rfl
    · exact .refl _
  | stop => exact .of_endings_eq (Int.le_refl _) rfl
  | world change => exact .of_endings_eq (Int.le_refl _) rfl

theorem Follows.goesOn_run (orderly : conduct.Orderly) (follows : scene.Follows scale roster)
    (distinct : roster.Distinct) (events : List (ThreadEvent W)) : scene.GoesOn (scene.run conduct events) := by
  induction events generalizing scene with
  | nil => exact .refl _
  | cons first rest ih => exact (follows.goesOn_happen first).trans (ih (follows.happen orderly distinct first))

/-! ### What begins since an earlier scene -/

/-- The numbers of the tasks whose runs began since an earlier scene. -/
def begunSince (scene after : ThreadScene A W) : List Nat :=
  (after.begun.drop scene.begun.length).map fun run => run.1.number

theorem length_begunSince (scene after : ThreadScene A W) :
    (scene.begunSince after).length = after.begun.length - scene.begun.length := by
  unfold begunSince
  rw [List.length_map, List.length_drop]

/-- What begins since a scene without a run are runs of what is left on its roster, with endings that are not
before its clock. -/
theorem Follows.exists_begun_eq_append (follows : scene.Follows scale roster) (idle : scene.current? = none)
    (goesOn : scene.GoesOn after) (follows' : after.Follows scale roster) :
    ∃ fresh, after.endings = scene.endings ++ fresh ∧
      (∀ ending ∈ fresh ++ (after.current?.map fun _ => scene.line.clock).toList, scene.line.clock ≤ ending) ∧
      after.begun = scene.begun ++ ((roster.after scale scene.endings).runs scale
        (fresh ++ (after.current?.map fun _ => scene.line.clock).toList)).map fun run => (run.task, run.start) := by
  obtain ⟨-, fresh, endings_eq, late⟩ := goesOn
  refine ⟨fresh, endings_eq, List.forall_mem_append.2 ⟨late, ?_⟩, ?_⟩
  · intro ending member
    obtain ⟨run, -, rfl⟩ := Option.map_eq_some_iff.1 (Option.mem_toList.1 member)
    exact Int.le_refl _
  · have begun := follows.begun_eq scene.line.clock
    rw [idle, Option.map_none, Option.toList_none, List.append_nil] at begun
    rw [follows'.begun_eq scene.line.clock, endings_eq, List.append_assoc, Roster.runs_append, List.map_append,
      ← begun]

theorem Follows.length_begun_le (follows : scene.Follows scale roster) (idle : scene.current? = none)
    (goesOn : scene.GoesOn after) (follows' : after.Follows scale roster) :
    scene.begun.length ≤ after.begun.length := by
  obtain ⟨fresh, -, -, begun_eq⟩ := follows.exists_begun_eq_append idle goesOn follows'
  rw [begun_eq, List.length_append]
  exact Nat.le_add_right ..

theorem Follows.exists_begunSince_eq (follows : scene.Follows scale roster) (idle : scene.current? = none)
    (goesOn : scene.GoesOn after) (follows' : after.Follows scale roster) :
    ∃ fresh, after.endings = scene.endings ++ fresh ∧
      (∀ ending ∈ fresh ++ (after.current?.map fun _ => scene.line.clock).toList, scene.line.clock ≤ ending) ∧
      scene.begunSince after = (roster.after scale scene.endings).numbers scale
        (fresh ++ (after.current?.map fun _ => scene.line.clock).toList) := by
  obtain ⟨fresh, endings_eq, late, begun_eq⟩ := follows.exists_begun_eq_append idle goesOn follows'
  refine ⟨fresh, endings_eq, late, ?_⟩
  unfold begunSince Roster.numbers
  rw [begun_eq, List.drop_left, List.map_map]
  rfl

/-- A task whose run did not begin since then still waits on the agenda. -/
theorem Follows.mem_agenda (follows : scene.Follows scale roster) (idle : scene.current? = none)
    (goesOn : scene.GoesOn after) (follows' : after.Follows scale roster)
    (pending : task ∈ (roster.after scale scene.endings).pending) (absent : task.number ∉ scene.begunSince after) :
    task ∈ after.line.service.agenda := by
  obtain ⟨fresh, endings_eq, -, begunSince_eq⟩ := follows.exists_begunSince_eq idle goesOn follows'
  rw [begunSince_eq, Roster.numbers, Roster.runs_append, List.map_append, List.mem_append, not_or] at absent
  obtain ⟨absent, notCurrent⟩ := absent
  have left : task ∈ (roster.after scale after.endings).pending := by
    rw [endings_eq, Roster.after_append]
    exact Roster.mem_after pending absent
  have held := follows'.held_perm.mem_iff.2 left
  unfold Background.held at held
  split at held
  · rename_i other ending runs
    refine (List.mem_cons.1 held).resolve_left ?_
    rintro rfl
    -- Its own run would be one that began.
    obtain ⟨start, current⟩ := (follows'.current?_eq_some_iff task).2 ⟨ending, runs⟩
    have next := (follows'.next?_of_current? current).1
    rw [endings_eq, Roster.after_append] at next
    rw [current] at notCurrent
    refine notCurrent ?_
    show task.number ∈ (Roster.runs scale _ [scene.line.clock]).map _
    rw [Roster.runs_singleton scale next]
    exact List.mem_singleton_self _
  · exact held

/-! ### A thread that goes on -/

theorem Follows.pending_of_agenda (follows : scene.Follows scale roster) (member : task ∈ scene.line.service.agenda) :
    task ∈ (roster.after scale scene.endings).pending := by
  refine follows.held_perm.mem_iff.1 ?_
  unfold Background.held
  split
  · exact List.mem_cons_of_mem _ member
  · exact member

/-- The run that is under way can end, and nothing begins by that. -/
theorem Follows.exists_idle (conduct : Conduct A W) (follows : scene.Follows scale roster) :
    ∃ limits : List Int, (scene.run conduct (limits.map .turn)).current? = none ∧
      (scene.run conduct (limits.map .turn)).begun = scene.begun := by
  cases current : scene.current? with
  | none => exact ⟨[], current, rfl⟩
  | some run =>
    obtain ⟨task, start⟩ := run
    obtain ⟨ending, runs⟩ := (follows.current?_eq_some_iff task).1 ⟨start, current⟩
    have logged := ends conduct current runs (Int.le_refl ending)
    have idle : (scene.run conduct [.turn ending]).current? = none := by
      have turns := Timeline.turn?_of_running conduct ending runs
      rw [if_pos (Int.le_refl _)] at turns
      rw [run_cons, happen_turn_of_some conduct turns]
      rfl
    refine ⟨[ending], idle, ?_⟩
    show (scene.run conduct [.turn ending]).begun = _
    unfold begun
    rw [logged, idle, current, List.map_append]
    exact List.append_nil _

/-- As long as a task waits, a thread that is not stopped comes to begin one more run. -/
theorem Follows.exists_longer (orderly : conduct.Orderly) (follows : scene.Follows scale roster)
    (distinct : roster.Distinct) (idle : scene.current? = none)
    (pending : task ∈ (roster.after scale scene.endings).pending) (goesOn : scene.GoesOn after)
    (follows' : after.Follows scale roster) :
    ∃ limits : List Int, (after.run conduct (limits.map .turn)).line.service.stopRequested = true ∨
      task.number ∈ scene.begunSince (after.run conduct (limits.map .turn)) ∨
      (scene.begunSince after).length < (scene.begunSince (after.run conduct (limits.map .turn))).length := by
  obtain ⟨limits, idle', same⟩ := follows'.exists_idle conduct
  have follows'' := follows_run orderly follows' distinct (limits.map .turn)
  have goesOn' := goesOn.trans (follows'.goesOn_run orderly distinct (limits.map .turn))
  by_cases signal : (after.run conduct (limits.map .turn)).line.service.stopRequested = true
  · exact ⟨limits, .inl signal⟩
  by_cases ran : task.number ∈ scene.begunSince (after.run conduct (limits.map .turn))
  · exact ⟨limits, .inr (.inl ran)⟩
  have waits := follows.mem_agenda idle goesOn' follows'' pending ran
  obtain ⟨first, -, begins⟩ := follows''.begins conduct distinct (Bool.eq_false_iff.2 signal) idle'
    (List.ne_nil_of_mem (follows''.pending_of_agenda waits))
  generalize scale.startAt (roster.after scale _).free first.due = start at begins
  obtain ⟨turns, begun_eq⟩ := begins start (Int.le_refl start)
  refine ⟨limits ++ List.replicate turns start, .inr (.inr ?_)⟩
  have le := follows.length_begun_le idle goesOn follows'
  rw [List.map_append, run_append, List.map_replicate, length_begunSince, length_begunSince, begun_eq, same,
    List.length_append, List.length_singleton]
  omega

/-- So it begins any number of runs, if the task itself is not among them. -/
theorem Follows.exists_begun (orderly : conduct.Orderly) (follows : scene.Follows scale roster)
    (distinct : roster.Distinct) (idle : scene.current? = none)
    (pending : task ∈ (roster.after scale scene.endings).pending) (bound : Nat) :
    ∃ limits : List Int, (scene.run conduct (limits.map .turn)).line.service.stopRequested = true ∨
      task.number ∈ scene.begunSince (scene.run conduct (limits.map .turn)) ∨
      bound ≤ (scene.begunSince (scene.run conduct (limits.map .turn))).length := by
  induction bound with
  | zero => exact ⟨[], .inr (.inr (Nat.zero_le _))⟩
  | succ bound ih =>
    obtain ⟨limits, signal | ran | long⟩ := ih
    · exact ⟨limits, .inl signal⟩
    · exact ⟨limits, .inr (.inl ran)⟩
    · obtain ⟨more, comes⟩ := follows.exists_longer orderly distinct idle pending
        (follows.goesOn_run orderly distinct (limits.map .turn))
        (follows_run orderly follows distinct (limits.map .turn))
      refine ⟨limits ++ more, ?_⟩
      rw [List.map_append, run_append]
      exact comes.imp_right (Or.imp_right (Nat.lt_of_le_of_lt long))

/-! ### Between two runs -/

/-- **A pending task that no other one overtakes twice**, with all that this comes to. -/
structure OvertakesOnce (conduct : Conduct A W) (scene : ThreadScene A W) (task : Task A) : Prop where
  /-- Each other task runs at most once before it. -/
  once : ∀ number, number ≠ task.number →
    (∀ other ∈ scene.line.service.agenda, other.number = number → other.Steady) → ∀ later,
    (ahead task.number (scene.begunSince (scene.run conduct later))).count number ≤ 1
  /-- All in all fewer runs begin before it than there are tasks. -/
  soon : (∀ other ∈ scene.line.service.agenda, other.number ≠ task.number → other.Steady) → ∀ later,
    (ahead task.number (scene.begunSince (scene.run conduct later))).length < scene.line.service.agenda.length
  /-- Until it runs it stays on the agenda, as it is. -/
  waits : ∀ later, task.number ∉ scene.begunSince (scene.run conduct later) →
    task ∈ (scene.run conduct later).line.service.agenda
  /-- The turns of the thread lead to its run, unless the service is stopped. -/
  comes : (∀ other ∈ scene.line.service.agenda, other.number ≠ task.number → other.Steady) →
    ∃ limits : List Int, (scene.run conduct (limits.map .turn)).line.service.stopRequested = true ∨
      task.number ∈ scene.begunSince (scene.run conduct (limits.map .turn))

/-- Between two runs the tasks that a roster has still to run are those of the agenda. -/
theorem Follows.agenda_perm (follows : scene.Follows scale roster) (idle : scene.current? = none) :
    scene.line.service.agenda.Perm (roster.after scale scene.endings).pending := by
  have perm := follows.held_perm
  unfold Background.held at perm
  split at perm
  · rename_i task ending runs
    obtain ⟨start, current⟩ := (follows.current?_eq_some_iff task).2 ⟨ending, runs⟩
    rw [idle] at current
    cases current
  · exact perm

theorem Follows.overtakesOnce (orderly : conduct.Orderly) (follows : scene.Follows scale roster)
    (distinct : roster.Distinct) (forward : scale.Forward) (idle : scene.current? = none)
    (member : task ∈ scene.line.service.agenda) (overdue : task.due < scale.due scene.line.clock 0) :
    scene.OvertakesOnce conduct task := by
  have perm := follows.agenda_perm idle
  have pending := perm.mem_iff.1 member
  have back {others : List Int} (late : ∀ ending ∈ others, scene.line.clock ≤ ending) :
      ∀ ending ∈ others, ∀ delay, 0 ≤ delay → task.due < scale.due ending delay := fun ending present delay nonneg =>
    Int.lt_of_lt_of_le overdue (forward _ _ _ (late ending present) nonneg)
  have soon (steady : ∀ other ∈ scene.line.service.agenda, other.number ≠ task.number → other.Steady)
      (later : List (ThreadEvent W)) :
      (ahead task.number (scene.begunSince (scene.run conduct later))).length < scene.line.service.agenda.length := by
    obtain ⟨fresh, -, late, begunSince_eq⟩ := follows.exists_begunSince_eq idle
      (follows.goesOn_run orderly distinct later) (follows_run orderly follows distinct later)
    rw [begunSince_eq, perm.length_eq]
    exact Roster.length_ahead_lt pending (fun other present => steady other (perm.mem_iff.2 present)) (back late)
  refine ⟨fun number apart steady later => ?_, soon, fun later absent => ?_, fun steady => ?_⟩
  · obtain ⟨fresh, -, late, begunSince_eq⟩ := follows.exists_begunSince_eq idle
      (follows.goesOn_run orderly distinct later) (follows_run orderly follows distinct later)
    rw [begunSince_eq]
    exact Roster.count_ahead_le pending apart (fun other present => steady other (perm.mem_iff.2 present)) (back late)
  · exact follows.mem_agenda idle (follows.goesOn_run orderly distinct later)
      (follows_run orderly follows distinct later) pending absent
  · obtain ⟨limits, signal | ran | long⟩ := follows.exists_begun orderly distinct idle pending
      scene.line.service.agenda.length
    · exact ⟨limits, .inl signal⟩
    · exact ⟨limits, .inr ran⟩
    -- As many runs as there are tasks cannot all be before its own.
    · refine ⟨limits, .inr (by_contra fun absent => ?_)⟩
      have short := soon steady (limits.map .turn)
      rw [ahead_of_notMem absent] at short
      omega

/-- **No task starves**: when a task of a service is overdue between two runs, each other one runs at most once
before it, whatever happens and however long the runs take, and the thread comes to run it unless the service is
stopped. -/
theorem run_overtakesOnce (orderly : conduct.Orderly) {service : Background A} {tasks : List (Task A)}
    (prepared : Prepared service tasks) (started : service.stage ≠ .created) (forward : service.scale.Forward)
    (thread : Nat) (clock : Int) (world : W) (before : List (ThreadEvent W))
    (reached : (launch service thread clock world).run conduct before = scene) (idle : scene.current? = none)
    (member : task ∈ scene.line.service.agenda) (overdue : task.due < service.scale.due scene.line.clock 0) :
    scene.OvertakesOnce conduct task := by
  have ready := prepared.readyFor
  have follows := follows_run orderly (follows_launch ready started thread clock world) ready.distinct before
  rw [reached] at follows
  exact follows.overtakesOnce orderly ready.distinct forward idle member overdue

/-- The task that runs once waits behind a run that takes longer than it should, and comes next. -/
theorem run_overtakesOnce_ticker : ∃ scene : ThreadScene Script Rehearsal, ∃ task,
    (launch ticker 1 0 ⟨[], [], none, 2, [], []⟩).run Rehearsal.conduct [.turn 40, .turn 40] = scene ∧
      scene.current? = none ∧ task ∈ scene.line.service.agenda ∧
      task.due < ticker.scale.due scene.line.clock 0 ∧ scene.OvertakesOnce Rehearsal.conduct task := by
  have started : ticker.stage ≠ .created := nofun
  refine ⟨_, ⟨5, 1, "once", none, failing "once" none⟩, rfl, rfl, .head _, by decide, ?_⟩
  exact run_overtakesOnce Rehearsal.orderly prepared_ticker started TimeScale.forward_exact 1 0 _
    [.turn 40, .turn 40] rfl rfl (.head _) (by decide)

end ThreadScene

end HostWatch
