/-
**A scheduler to compare with.**

A roster has the tasks that are to run, in any order, and the reading of the clock from which on its one
worker is free. It takes the task that comes first, starts it as soon as it is due and the worker is free, and
puts it back when it has a delay.

* `TimeScale.startAt`: when a task starts. On a scale whose waits end when they should (`TimeScale.Sharp`) it
  is the later one of the moment at which it is due and that from which on the worker is free.
* `TimeScale.sharp_exact`, `TimeScale.sharp_binaryMoments`: milliseconds are such a scale, and so are the rounded sums
  of binary seconds on a clock that counts their units.
* `Roster.next?`: **the task that comes first**, by its due time and then its number.
* `Roster.runs`, `Roster.after`: **the runs of a roster**, given when each of them ends, and what is then
  left.
* `Roster.next?_eq_some`: on an agenda that is in order it is the task in front.
* `Roster.pending_complete_perm`: a run takes its task out, and nothing else, and puts back what runs again.
* `Roster.count_runs_le`: a task that runs once does so at most once.
* `Sequential`: runs one after the other.
-/

import HostWatch.Proofs.Binary64.Order
import HostWatch.Service.Background
import Mathlib.Data.List.Nodup

namespace HostWatch

namespace Task

variable {A : Type}

theorem NotLater.refl (task : Task A) : task.NotLater task := .inr ⟨rfl, Nat.le_refl _⟩

/-- Two tasks that are not later than each other have one number. -/
theorem NotLater.number_eq {a b : Task A} (ab : a.NotLater b) (ba : b.NotLater a) : a.number = b.number := by
  unfold NotLater at *
  omega

/-- The task as it is to run again after a run, if it does. -/
def again? (scale : TimeScale) (ending : Int) (task : Task A) : Option (Task A) :=
  task.delay?.map fun delay => { task with due := scale.due ending delay }

theorem number_of_again? {scale : TimeScale} {ending : Int} {task again : Task A}
    (is : task.again? scale ending = some again) : again.number = task.number := by
  obtain ⟨delay, -, rfl⟩ := Option.map_eq_some_iff.1 is
  rfl

end Task

namespace TimeScale

/-- When a task starts that is due at a moment, for a worker who is free from a reading of the clock on. -/
def startAt (scale : TimeScale) (free due : Int) : Int :=
  if 0 < scale.wait free due then free + scale.wait free due else free

theorem le_startAt (scale : TimeScale) (free due : Int) : free ≤ scale.startAt free due := by
  unfold startAt
  split <;> omega

/-- **A scale whose waits end when they should**: a wait ends just when its moment has come, and there is none
when the moment has come already. -/
structure Sharp (scale : TimeScale) : Prop where
  ends : ∀ clock due, 0 < scale.wait clock due → clock + scale.wait clock due = scale.reading due
  come : ∀ clock due, ¬ 0 < scale.wait clock due → scale.reading due ≤ clock

theorem Sharp.of_wait {scale : TimeScale}
    (lasts : ∀ clock due, scale.wait clock due = scale.reading due - clock) : scale.Sharp where
  ends clock due _ := by
    rw [lasts]
    omega
  come clock due none := by
    rw [lasts] at none
    omega

theorem sharp_exact : exact.Sharp := .of_wait fun _ _ => rfl

/-- On such a scale a task starts when it is due, or when the worker is free if that is later. -/
theorem Sharp.startAt_eq {scale : TimeScale} (sharp : scale.Sharp) :
    scale.startAt = fun free due => max free (scale.reading due) := by
  funext free due
  unfold startAt
  split
  · rename_i waits
    have := sharp.ends free due waits
    omega
  · rename_i none
    exact (Int.max_eq_left (sharp.come free due none)).symm

/-! ### Binary seconds on a clock of their own -/

section BinaryMoments

open Binary64

/-- The scale of binary seconds for a clock that counts the units of its moments: a sum is rounded as there, and a
wait lasts right up to its moment. -/
def binaryMoments : TimeScale where
  due clock delay := nearest (clock + (delaySeconds delay).toUnits) unitsInOne
  wait clock due := due - clock
  reading due := due

/-- **Rounded sums do not keep a scale from being sharp.** -/
theorem sharp_binaryMoments : binaryMoments.Sharp := .of_wait fun _ _ => rfl

theorem exists_delaySeconds (delay : Int) :
    ∃ negative significand exponent, delaySeconds delay = .finite negative significand exponent := by
  unfold delaySeconds ofQuotient
  rw [if_neg (by decide)]
  rcases ofRatio_eq_or ((delay < 0) != decide ((1000 : Int) < 0)) delay.natAbs (1000 : Int).natAbs with
    is | ⟨significand, exponent, is⟩
  · rw [is]
    exact ⟨false, 0, 0, rfl⟩
  · rw [is]
    exact ⟨_, significand, exponent, rfl⟩

/-- A moment is the sum of a reading in seconds and a delay. -/
theorem due_binaryMoments (negative : Bool) (significand exponent : Nat) (delay : Int) :
    binaryMoments.due (finite negative significand exponent).toUnits delay =
      ((finite negative significand exponent).add (delaySeconds delay)).toUnits := by
  obtain ⟨negative', significand', exponent', is⟩ := exists_delaySeconds delay
  unfold binaryMoments
  dsimp only
  rw [is, (toUnits_add_finite negative significand exponent negative' significand' exponent').2]

/-- There is a wait just when the difference in seconds of a moment and a reading is positive, rounded as it is. -/
theorem wait_binaryMoments_pos_iff (a : Bool) (m e : Nat) (b : Bool) (n k : Nat) :
    0 < binaryMoments.wait (finite b n k).toUnits (finite a m e).toUnits ↔
      0 < ((finite a m e).sub (finite b n k)).toUnits :=
  (toUnits_sub_pos_iff ..).symm

end BinaryMoments

end TimeScale

/-- A run of a task. -/
structure TaskRun (A : Type) where
  /-- The task, as it was when the run began. -/
  task : Task A
  start : Int
  ending : Int

/-- The tasks that are to run, and the reading of the clock from which on the worker is free. -/
structure Roster (A : Type) where
  /-- The tasks that are to run, in any order. -/
  pending : List (Task A)
  /-- From when on the worker is free. -/
  free : Int

namespace Roster

variable {A : Type}

/-- **The task that comes first**: it is not later than any other one. -/
def next? (roster : Roster A) : Option (Task A) :=
  roster.pending.find? fun task => roster.pending.all fun other => task.NotLater other

def complete (scale : TimeScale) (roster : Roster A) (task : Task A) (ending : Int) : Roster A where
  pending := (task.again? scale ending).toList ++
    roster.pending.filter fun other => other.number ≠ task.number
  free := ending

/-- **The runs of a roster**, given when each of them ends. -/
def runs (scale : TimeScale) (roster : Roster A) : List Int → List (TaskRun A)
  | [] => []
  | ending :: endings =>
    match roster.next? with
    | none => []
    | some task =>
      ⟨task, scale.startAt roster.free task.due, ending⟩ ::
        (roster.complete scale task ending).runs scale endings

/-- The roster after some runs, given when each of them ends. -/
def after (scale : TimeScale) (roster : Roster A) : List Int → Roster A
  | [] => roster
  | ending :: endings =>
    match roster.next? with
    | none => roster
    | some task => (roster.complete scale task ending).after scale endings

/-- No two tasks that are to run have one number. -/
def Distinct (roster : Roster A) : Prop := (roster.pending.map Task.number).Nodup

/-! ### The next task -/

section Next

variable {roster : Roster A} {task : Task A}

theorem mem_of_next? (next : roster.next? = some task) : task ∈ roster.pending :=
  List.mem_of_find?_eq_some next

/-- **On an agenda that is in order the task in front comes first.** -/
theorem next?_eq_some {rest : Agenda A} (perm : roster.pending.Perm (task :: rest))
    (ordered : Agenda.Ordered (task :: rest)) (distinct : roster.Distinct) : roster.next? = some task := by
  have member : task ∈ roster.pending := perm.mem_iff.2 List.mem_cons_self
  have first : ∀ other ∈ roster.pending, task.NotLater other := by
    intro other present
    rcases List.mem_cons.1 (perm.mem_iff.1 present) with rfl | behind
    · exact .refl _
    · exact (List.pairwise_cons.1 ordered).1 other behind
  cases found : roster.next? with
  | none =>
    have fits : (roster.pending.all fun other => task.NotLater other) = true :=
      List.all_eq_true.2 fun other present => decide_eq_true (first other present)
    exact absurd fits (List.find?_eq_none.1 found task member)
  | some other =>
    have present := mem_of_next? found
    have also : other.NotLater task := by
      have every := List.find?_some found
      simp only [List.all_eq_true, decide_eq_true_eq] at every
      exact every task member
    rw [List.inj_on_of_nodup_map distinct present member (also.number_eq (first other present))]

end Next

/-! ### A run -/

section Complete

variable {roster : Roster A} {task : Task A} (scale : TimeScale) (ending : Int)

theorem mem_complete_iff {other : Task A} :
    other ∈ (roster.complete scale task ending).pending ↔
      task.again? scale ending = some other ∨ other ∈ roster.pending ∧ other.number ≠ task.number := by
  unfold complete
  rw [List.mem_append, Option.mem_toList, List.mem_filter, decide_eq_true_eq]

/-- **A run takes its task out**, and nothing else, and puts it back when it is to run again. -/
theorem pending_complete_perm {rest : Agenda A} (perm : roster.pending.Perm (task :: rest))
    (distinct : roster.Distinct) :
    (roster.complete scale task ending).pending.Perm ((task.again? scale ending).toList ++ rest) := by
  -- What goes is all that has the number of the task, and only the task has it.
  refine List.Perm.append_left _ ((perm.filter _).trans ?_)
  have numbers : ((task :: rest).map Task.number).Nodup := (perm.map Task.number).nodup_iff.1 distinct
  rw [List.map_cons, List.nodup_cons] at numbers
  have others : ∀ other ∈ rest, other.number ≠ task.number := fun other member same =>
    numbers.1 (same ▸ List.mem_map_of_mem member)
  rw [List.filter_cons_of_neg (by simp), List.filter_eq_self.2]
  exact fun other member => by simpa using others other member

theorem distinct_complete (distinct : roster.Distinct) (task : Task A) :
    (roster.complete scale task ending).Distinct := by
  have kept : ((roster.pending.filter fun other => other.number ≠ task.number).map Task.number).Nodup :=
    distinct.sublist (List.filter_sublist.map _)
  unfold Distinct complete
  rw [List.map_append]
  cases is : task.again? scale ending with
  | none => exact kept
  | some again =>
    refine List.nodup_cons.2 ⟨fun member => ?_, kept⟩
    obtain ⟨other, present, same⟩ := List.mem_map.1 member
    have apart : other.number ≠ task.number := by simpa using (List.mem_filter.1 present).2
    exact apart (same.trans (Task.number_of_again? is))

end Complete

/-! ### Some runs -/

section Runs

variable (scale : TimeScale)

theorem runs_append (roster : Roster A) (first second : List Int) :
    roster.runs scale (first ++ second) =
      roster.runs scale first ++ (roster.after scale first).runs scale second := by
  induction first generalizing roster with
  | nil => rfl
  | cons ending endings ih =>
    rw [List.cons_append, runs, runs, after]
    cases next : roster.next? with
    -- A roster on which nothing comes first stays as it is, so the rest of the endings does not matter.
    | none =>
      cases second with
      | nil => rfl
      | cons =>
        show [] = [] ++ runs scale roster _
        rw [runs, next]
        rfl
    | some task => exact congrArg (_ :: ·) (ih _)

theorem after_append (roster : Roster A) (first second : List Int) :
    roster.after scale (first ++ second) = (roster.after scale first).after scale second := by
  induction first generalizing roster with
  | nil => rfl
  | cons ending endings ih =>
    rw [List.cons_append, after, after]
    cases next : roster.next? with
    | none =>
      cases second with
      | nil => rfl
      | cons =>
        show roster = after scale roster _
        rw [after, next]
    | some task => exact ih _

theorem runs_singleton {roster : Roster A} {task : Task A} (next : roster.next? = some task) (ending : Int) :
    roster.runs scale [ending] = [⟨task, scale.startAt roster.free task.due, ending⟩] := by
  rw [runs, next]
  rfl

theorem after_singleton {roster : Roster A} {task : Task A} (next : roster.next? = some task) (ending : Int) :
    roster.after scale [ending] = roster.complete scale task ending := by
  rw [after, next]
  rfl

theorem distinct_after {roster : Roster A} (distinct : roster.Distinct) (endings : List Int) :
    (roster.after scale endings).Distinct := by
  induction endings generalizing roster with
  | nil => exact distinct
  | cons ending endings ih =>
    rw [after]
    split
    · exact distinct
    · exact ih (distinct_complete scale ending distinct _)

/-- A number that no pending task has is that of no run. -/
theorem number_notMem_runs {roster : Roster A} {number : Nat}
    (absent : ∀ task ∈ roster.pending, task.number ≠ number) (endings : List Int) :
    number ∉ (roster.runs scale endings).map fun run => run.task.number := by
  induction endings generalizing roster with
  | nil => exact List.not_mem_nil
  | cons ending endings ih =>
    rw [runs]
    cases next : roster.next? with
    | none => exact List.not_mem_nil
    | some task =>
      have apart := absent task (mem_of_next? next)
      refine List.not_mem_cons_of_ne_of_not_mem apart.symm (ih fun other member => ?_)
      rcases (mem_complete_iff scale ending).1 member with is | ⟨present, -⟩
      · rwa [Task.number_of_again? is]
      · exact absent other present

/-- **A task that runs once does so at most once.** -/
theorem count_runs_le {roster : Roster A} (distinct : roster.Distinct) {task : Task A}
    (member : task ∈ roster.pending) (once : task.delay? = none) (endings : List Int) :
    ((roster.runs scale endings).map fun run => run.task.number).count task.number ≤ 1 := by
  induction endings generalizing roster with
  | nil => exact Nat.zero_le 1
  | cons ending endings ih =>
    rw [runs]
    cases next : roster.next? with
    | none => exact Nat.zero_le 1
    | some first =>
      show (first.number :: _).count task.number ≤ 1
      by_cases same : first.number = task.number
      -- It is the task itself, which is not put back: no later run can have its number.
      · obtain rfl := List.inj_on_of_nodup_map distinct (mem_of_next? next) member same
        have gone : ∀ other ∈ (roster.complete scale first ending).pending,
            other.number ≠ first.number := by
          intro other present
          rcases (mem_complete_iff scale ending).1 present with is | ⟨-, apart⟩
          · unfold Task.again? at is
            rw [once] at is
            cases is
          · exact apart
        refine Nat.le_of_eq ?_
        rw [List.count_cons_self, List.count_eq_zero_of_not_mem (number_notMem_runs scale gone endings)]
      · rw [List.count_cons_of_ne same]
        refine ih (distinct_complete scale ending distinct first) ?_
        exact (mem_complete_iff scale ending).2 (.inr ⟨member, fun eq => same eq.symm⟩)

end Runs

end Roster

/-- **Runs one after the other**, from a reading of the clock on: each starts when it should and not before
the one in front of it ended. -/
def Sequential {A : Type} (startAt : Int → Int → Int) : Int → List (TaskRun A) → Prop
  | _, [] => True
  | free, run :: rest =>
    free ≤ run.start ∧ run.start = startAt free run.task.due ∧ run.start ≤ run.ending ∧
      Sequential startAt run.ending rest

theorem Roster.sequential_runs {A : Type} (scale : TimeScale) {roster : Roster A} {endings : List Int}
    (forward : ∀ run ∈ roster.runs scale endings, run.start ≤ run.ending) :
    Sequential scale.startAt roster.free (roster.runs scale endings) := by
  induction endings generalizing roster with
  | nil => trivial
  | cons ending endings ih =>
    rw [runs] at forward ⊢
    cases next : roster.next? with
    | none => trivial
    | some task =>
      rw [next] at forward
      obtain ⟨first, rest⟩ := List.forall_mem_cons.1 forward
      exact ⟨scale.le_startAt _ _, rfl, first, ih rest⟩

end HostWatch
