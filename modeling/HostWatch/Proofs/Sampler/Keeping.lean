/-
**Which sets of reports a sampler keeps.**

A sampler compares what its analyst finds with the newest set in a history that forgets its oldest sets.
What it keeps in this way over a whole run, and hands over, depends on nothing but the findings:

* `Report.kept`: **the changes among some sets of reports**, the first of which flags a problem.
* `Report.isChain_kept`: no change says the same as the one before.
* `Sampler.items_run`, `Sampler.handovers_eq`: what any sampler keeps and hands over in a run, by
  induction on the events. The newest set in the history is the last one kept, however much was forgotten.
* `Sampler.run_notesChanges`: **what it comes to** for a new sampler.
* `Sampler.findings_given`: any findings at all, and any failures between them, are those of some run.
-/

import HostWatch.Proofs.Sampler.Happening
import Mathlib.Data.List.Chain

namespace HostWatch

/-! ### Changes among sets of reports -/

namespace Report

/-- The sets that differ from the last one before them that differs, or from a given one. -/
def changesAfter (last : List Report) : List (List Report) → List (List Report)
  | [] => []
  | reports :: rest =>
    if sameProblems last reports then changesAfter last rest
    else reports :: changesAfter reports rest

/-- **The changes among some sets of reports.** Those in front that flag nothing do not count, the next
one does, and then each one that differs from the last one that counts. -/
def kept (found : List (List Report)) : List (List Report) :=
  match found.dropWhile fun reports => !anyFlagged reports with
  | [] => []
  | first :: rest => first :: changesAfter first rest

/-- The changes after the last one, if there was one. -/
def keptAfter (last? : Option (List Report)) (found : List (List Report)) : List (List Report) :=
  match last? with
  | none => kept found
  | some last => changesAfter last found

theorem keptAfter_nil (last? : Option (List Report)) : keptAfter last? [] = [] := by
  cases last? <;> rfl

/-- A set counts when the sampler keeps it. -/
theorem keptAfter_cons (last? : Option (List Report)) (reports : List Report)
    (rest : List (List Report)) :
    keptAfter last? (reports :: rest) =
      if Sampler.keeps last? reports then reports :: keptAfter (some reports) rest
      else keptAfter last? rest := by
  cases last? with
  | none =>
    show kept (reports :: rest) = if anyFlagged reports then _ else kept rest
    unfold kept
    rw [List.dropWhile_cons]
    cases flagged : anyFlagged reports with
    | true => rfl
    | false => rfl
  | some last =>
    show changesAfter last (reports :: rest) = if !sameProblems last reports then _ else _
    rw [changesAfter]
    cases same : sameProblems last reports with
    | true => rfl
    | false => rfl

theorem isChain_changesAfter (last : List Report) (found : List (List Report)) :
    (last :: changesAfter last found).IsChain fun a b => sameProblems a b = false := by
  induction found generalizing last with
  | nil => exact List.isChain_singleton last
  | cons reports rest ih =>
    unfold changesAfter
    split
    · exact ih last
    · rename_i differs
      exact List.isChain_cons_cons.2 ⟨Bool.eq_false_iff.2 differs, ih reports⟩

/-- **No change says the same as the one before.** -/
theorem isChain_kept (found : List (List Report)) :
    (kept found).IsChain fun a b => sameProblems a b = false := by
  unfold kept
  split
  · exact List.isChain_nil
  · exact isChain_changesAfter _ _

/-- An end of all problems is a change, and no reports at all say the same as that. -/
example :
    let full : Report := ⟨"Disk", true, "full", "", 0⟩
    let fine : Report := ⟨"Disk", false, "fine", "", 0⟩
    kept [[fine], [full], [fine, full], [fine], [], [full]] = [[full], [fine], [full]] := by
  decide

end Report

/-! ### Runs of a sampler -/

namespace Sampler

open Report

/-- The newest set after an event is the one kept at it, if one is. -/
theorem newest?_happen (sampler : Sampler) (event : SamplerEvent) :
    (sampler.happen event).problems.newest? = (sampler.keptAt? event).or sampler.problems.newest? := by
  rw [problems_happen]
  cases sampler.keptAt? event with
  | none => rfl
  | some reports => exact History.newest?_add _ _

theorem capacity_happen (sampler : Sampler) (event : SamplerEvent) :
    (sampler.happen event).problems.capacity = sampler.problems.capacity := by
  rw [problems_happen]
  split <;> rfl

/-- What is kept from an event on begins with what is kept at it. -/
theorem keptAfter_findings_cons (sampler : Sampler) (first : SamplerEvent) (rest : List SamplerEvent) :
    keptAfter sampler.problems.newest? (sampler.findings (first :: rest)) =
      (sampler.keptAt? first).toList ++
        keptAfter (sampler.happen first).problems.newest? ((sampler.happen first).findings rest) := by
  rw [newest?_happen]
  show keptAfter _ ((sampler.found? first).toList ++ _) = _
  unfold keptAt?
  cases sampler.found? first with
  | none => rfl
  | some reports =>
    show keptAfter _ (reports :: _) = _
    rw [keptAfter_cons, Option.filter_some]
    split <;> rfl

/-- **The history after a run** has the newest of the sets that it had and those that are kept. -/
theorem items_run (sampler : Sampler) (events : List SamplerEvent) :
    (sampler.run events).problems.items =
      History.newest sampler.problems.capacity
        (sampler.problems.items ++ keptAfter sampler.problems.newest? (sampler.findings events)) := by
  induction events generalizing sampler with
  | nil =>
    show sampler.problems.items = History.newest _ (_ ++ keptAfter _ [])
    rw [keptAfter_nil, List.append_nil, History.newest_eq_self sampler.problems.length_le]
  | cons first rest ih =>
    rw [run_cons, ih, capacity_happen, keptAfter_findings_cons, problems_happen]
    cases sampler.keptAt? first with
    | none => rfl
    | some reports =>
      show History.newest _ ((sampler.problems.add reports).items ++ _) =
        History.newest _ (_ ++ ([reports] ++ _))
      rw [History.items_add, History.newest_newest_append, List.append_assoc]

/-- **The recipient gets what is kept**, in this order and each set once. -/
theorem handovers_eq {sampler : Sampler} (given : sampler.recipient?.isSome) (events : List SamplerEvent) :
    sampler.handovers events = keptAfter sampler.problems.newest? (sampler.findings events) := by
  induction events generalizing sampler with
  | nil => exact (keptAfter_nil _).symm
  | cons first rest ih =>
    rw [keptAfter_findings_cons, ← ih (isSome_recipient?_happen given first), ← handed_eq given]
    rfl

/-- After a look that found something, the newest set that was kept, if there is one, says the same. -/
theorem sameProblems_newest? {sampler : Sampler} {event : SamplerEvent} {reports last : List Report}
    (found : sampler.found? event = some reports)
    (newest : (sampler.happen event).problems.newest? = some last) : sameProblems last reports = true := by
  rw [newest?_happen] at newest
  unfold keptAt? at newest
  rw [found, Option.filter_some] at newest
  split at newest
  · obtain rfl : reports = last := Option.some.inj newest
    exact sameProblems_refl reports
  · rename_i passed
    have before : sampler.problems.newest? = some last := newest
    rw [before] at passed
    simpa [keeps] using passed

/-- A look that finds nothing changes nothing. -/
theorem keptAt?_eq_none {sampler : Sampler} {event : SamplerEvent} (nothing : sampler.found? event = none) :
    sampler.keptAt? event = none := by
  unfold keptAt?
  rw [nothing]
  rfl

theorem isSome_recipient?_run {sampler : Sampler} (given : sampler.recipient?.isSome)
    (events : List SamplerEvent) : (sampler.run events).recipient?.isSome := by
  induction events generalizing sampler with
  | nil => exact given
  | cons first rest ih => exact ih (isSome_recipient?_happen given first)

/-! ### New samplers -/

/-- **A sampler that notes the changes** among what its analyst finds in a run, and nothing else. -/
structure NotesChanges (sampler : Sampler) (events : List SamplerEvent) : Prop where
  /-- The history has the last of the changes, as many as the plan says. -/
  items_eq : (sampler.run events).problems.items =
    History.newest sampler.problemPlan.historyLength (kept (sampler.findings events))
  /-- The recipient, if there is one, gets the changes, in their order and each of them once. -/
  handovers_eq : sampler.recipient?.isSome → sampler.handovers events = kept (sampler.findings events)
  /-- No two sets that are kept one after the other say the same. -/
  isChain : (kept (sampler.findings events)).IsChain fun a b => sameProblems a b = false
  /-- The newest set in the history is the last change, however many changes the history forgot. -/
  newest?_eq : (sampler.run events).problems.newest? = (kept (sampler.findings events)).getLast?
  /-- Once a set is kept, the newest one says the same as each finding when it is made. -/
  newest?_same : ∀ event reports, (sampler.run events).found? event = some reports →
    kept (sampler.findings (events ++ [event])) ≠ [] →
    ∃ last, (sampler.run (events ++ [event])).problems.newest? = some last ∧
      sameProblems last reports = true
  /-- What finds nothing, such as a look at which the analyst fails, changes nothing. -/
  unchanged : ∀ event, (sampler.run events).found? event = none →
    (sampler.run (events ++ [event])).problems = (sampler.run events).problems ∧
      (sampler.recipient?.isSome → (sampler.run events).handed event = [])

section New

variable (samplePlan problemPlan : SamplingPlan) (meters : CpuFigure → CpuMeter) (memory : MemorySource)
  (registry : LockRegistry) (analyst? : Option Analyst) (recipient? : Option Recipient)
  (machine : Machine)

/-- The history of a new sampler has the newest of the changes. -/
theorem items_run_of (events : List SamplerEvent) :
    let sampler := of samplePlan problemPlan meters memory registry analyst? recipient? machine
    (sampler.run events).problems.items =
      History.newest problemPlan.historyLength (kept (sampler.findings events)) := by
  intro sampler
  have items := sampler.items_run events
  rwa [show sampler.problems.items = [] from rfl, List.nil_append] at items

/-- The newest set in the history of a new sampler is the last change. -/
theorem newest?_run_of (events : List SamplerEvent) :
    let sampler := of samplePlan problemPlan meters memory registry analyst? recipient? machine
    (sampler.run events).problems.newest? = (kept (sampler.findings events)).getLast? := by
  intro sampler
  show (sampler.run events).problems.items.getLast? = _
  rw [items_run_of, History.getLast?_newest problemPlan.one_le_historyLength]

/-- **Every new sampler notes the changes**, whoever looks for problems, whoever receives the sets, and
whatever happens between the looks. -/
theorem run_notesChanges (events : List SamplerEvent) :
    (of samplePlan problemPlan meters memory registry analyst? recipient? machine).NotesChanges events := by
  refine ⟨items_run_of .., fun given => handovers_eq given events, isChain_kept _, newest?_run_of ..,
    fun event reports found some => ?_, fun event found => ?_⟩
  · rw [newest?_run_of]
    refine ⟨_, List.getLast?_eq_some_getLast some, ?_⟩
    refine sameProblems_newest? found ?_
    rw [← List.getLast?_eq_some_getLast some, ← newest?_run_of, run_append]
    rfl
  · have nothing := keptAt?_eq_none found
    refine ⟨?_, fun given => ?_⟩
    · rw [run_append, run_cons, run_nil, problems_happen, nothing]
    · rw [handed_eq (isSome_recipient?_run given events), nothing]
      rfl

end New

/-! ### Arbitrary findings -/

/-- **Any findings are those of some run**, with any failures between them. -/
theorem findings_given {sampler : Sampler} {outcomes : List (Except Failure (List Report))}
    (given : sampler.analyst? = some (.given outcomes)) :
    sampler.findings (List.replicate outcomes.length (.task .diagnose)) =
      outcomes.filterMap Except.toOption := by
  induction outcomes generalizing sampler with
  | nil => rfl
  | cons outcome rest ih =>
    have finding : sampler.finding? = outcome.toOption := by
      unfold finding?
      rw [given]
      cases outcome <;> rfl
    have later := analyst?_perform_diagnose given
    show sampler.finding?.toList ++
      (sampler.perform .diagnose).2.findings (List.replicate rest.length _) = _
    rw [finding]
    have more : (sampler.perform .diagnose).2.findings (List.replicate rest.length (.task .diagnose)) =
        rest.filterMap Except.toOption := by
      cases rest with
      | nil => rfl
      | cons next others => exact ih later
    rw [more]
    cases outcome <;> rfl

end Sampler

end HostWatch
