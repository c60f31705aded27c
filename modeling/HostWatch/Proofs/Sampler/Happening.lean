/-
**What happens to a sampler.**

A sampler runs its tasks, its configuration changes, and the machine and the recipient of its reports go on
by themselves between its tasks.

* `Sampler.keeps_takeSample`: a measurement changes what is known of the machine, and nothing else.
* `Sampler.perform_diagnose`: **what a look for problems does.** It considers the reports that the analyst
  finds; when the analyst fails, it considers nothing.
* `Sampler.finding?`, `Sampler.findings`: what the analyst finds at a look, and in a run.
* `Sampler.handed`, `Sampler.handovers`: the sets that are handed over by one event, and in a run.
* `Sampler.problems_happen`, `recipient?_happen`: what an event does to the history of problems and to the
  recipient.
-/

import HostWatch.Proofs.Notice.Scene
import HostWatch.Proofs.Stateful
import HostWatch.Sampler.Course

namespace HostWatch

/-! ### Computations of a sampler -/

namespace Sampling

open Stateful

theorem run_look {α : Type} (probe : Probe α) (sampler : Sampler) :
    (look probe).run.run sampler =
      ((probe.run.run sampler.machine).1,
        { sampler with machine := (probe.run.run sampler.machine).2 }) := by
  unfold look
  show ((ofExcept (probe.run.run sampler.machine).1 : Sampling α).run.run _) = _
  cases (probe.run.run sampler.machine).1 <;> rfl

theorem keeps_look {α γ : Type} {part : Sampler → γ}
    (free : ∀ sampler machine, part { sampler with machine := machine } = part sampler)
    (probe : Probe α) : Keeps part (look probe) := by
  intro sampler
  rw [run_look]
  exact free _ _

end Sampling

namespace Sampler

open Sampling Stateful

/-! ### The tasks -/

/-- The part of a sampler that only a look for problems changes. -/
def outlet (sampler : Sampler) : History (List Report) × Option Recipient :=
  (sampler.problems, sampler.recipient?)

section Measuring

/- A measurement changes what is known of the machine, and nothing else. -/
variable {α : Type} {part : Sampler → α}
  (free : ∀ sampler meters machine, part { sampler with meters := meters, machine := machine } = part sampler)
include free

theorem keeps_readMeter (figure : CpuFigure) : Keeps part (readMeter figure) := by
  unfold readMeter
  refine keeps_get.bind fun sampler => ?_
  refine (keeps_look (fun sampler => free sampler sampler.meters) _).bind fun ⟨meter, usage⟩ => ?_
  refine Keeps.bind (keeps_modify fun sampler => ?_) fun _ => keeps_pure _
  exact free sampler _ sampler.machine

theorem keeps_takeSample : Keeps part takeSample := by
  have look {β : Type} (probe : Probe β) : Keeps part (look probe) :=
    keeps_look (fun sampler => free sampler sampler.meters) probe
  have readMeter (figure : CpuFigure) : Keeps part (readMeter figure) := keeps_readMeter free figure
  unfold takeSample
  refine (readMeter _).bind fun collecting => (readMeter _).bind fun host => ?_
  refine (readMeter _).bind fun process => (readMeter _).bind fun disks => ?_
  refine keeps_get.bind fun sampler => ?_
  refine (look _).bind fun own => (look _).bind fun traced => ?_
  refine (look _).bind fun physical => (look _).bind fun swap => ?_
  refine (look _).bind fun threads => (look _).bind fun modules => (look _).bind fun time => ?_
  exact keeps_ofExcept _

end Measuring

/-- Taking a sample has no part in the problems, also when it fails. -/
theorem outlet_perform_sample (sampler : Sampler) :
    (sampler.perform .sample).2.outlet = sampler.outlet := by
  have kept : Keeps outlet sample :=
    (keeps_takeSample fun _ _ _ => rfl).bind fun _ => keeps_modify fun _ => rfl
  exact kept sampler

/-- The sampler whose analyst begins to look at the samples. -/
def looking (sampler : Sampler) (analyst : Analyst) : Sampler :=
  { sampler with analyst? := some analyst.next, looks := sampler.looks ++ [sampler.samples.items.length] }

theorem machine_looking (sampler : Sampler) (analyst : Analyst) :
    (sampler.looking analyst).machine = sampler.machine := rfl

theorem perform_diagnose_of_none {sampler : Sampler} (nobody : sampler.analyst? = none) :
    sampler.perform .diagnose = (.ok (), sampler) := by
  obtain ⟨_, _, _, _, _, _, _, _, _, analyst?, _, _⟩ := sampler
  obtain rfl : analyst? = none := nobody
  rfl

/-- **What a look for problems does.** -/
theorem perform_diagnose {sampler : Sampler} {analyst : Analyst} (found : sampler.analyst? = some analyst) :
    sampler.perform .diagnose =
      match (analyst.problems sampler.samples.items).run.run sampler.machine with
      | (.ok reports, machine) =>
        (.ok (), { sampler.looking analyst with machine := machine }.consider reports)
      | (.error failure, machine) =>
        (.error failure, { sampler.looking analyst with machine := machine }) := by
  have first : sampler.perform .diagnose =
      (do let reports ← look (analyst.problems sampler.samples.items)
          modify fun sampler => sampler.consider reports : Sampling Unit).run.run
        (sampler.looking analyst) := by
    obtain ⟨_, _, _, _, _, _, _, _, _, analyst?, _, _⟩ := sampler
    obtain rfl : analyst? = some analyst := found
    rfl
  rw [first, run_bind, run_look, machine_looking]
  generalize (analyst.problems sampler.samples.items).run.run sampler.machine = result
  obtain ⟨outcome, machine⟩ := result
  cases outcome <;> rfl

/-- What the analyst finds at a look; nothing when he fails, or when there is none. -/
def finding? (sampler : Sampler) : Option (List Report) :=
  match sampler.analyst? with
  | none => none
  | some analyst => ((analyst.problems sampler.samples.items).run.run sampler.machine).1.toOption

theorem outlet_consider (sampler : Sampler) (reports : List Report) :
    (sampler.consider reports).outlet =
      if keeps sampler.problems.newest? reports then
        (sampler.problems.add reports, sampler.recipient?.map (Recipient.enqueue reports))
      else sampler.outlet := by
  unfold consider
  split <;> rfl

theorem analyst?_consider (sampler : Sampler) (reports : List Report) :
    (sampler.consider reports).analyst? = sampler.analyst? := by
  unfold consider
  split <;> rfl

/-- A look for problems comes down to what the analyst found. -/
theorem outlet_perform_diagnose (sampler : Sampler) :
    (sampler.perform .diagnose).2.outlet =
      match sampler.finding? with
      | none => sampler.outlet
      | some reports => (sampler.consider reports).outlet := by
  unfold finding?
  cases found : sampler.analyst? with
  | none =>
    rw [perform_diagnose_of_none found]
  | some analyst =>
    rw [perform_diagnose found]
    dsimp only
    generalize (analyst.problems sampler.samples.items).run.run sampler.machine = result
    obtain ⟨outcome, machine⟩ := result
    cases outcome with
    | error failure => rfl
    | ok reports =>
      show ({ sampler.looking analyst with machine := machine }.consider reports).outlet =
        (sampler.consider reports).outlet
      rw [outlet_consider, outlet_consider]
      rfl

/-- An analyst goes on to the next look, also when he fails. -/
theorem analyst?_perform_diagnose {sampler : Sampler} {analyst : Analyst}
    (found : sampler.analyst? = some analyst) :
    (sampler.perform .diagnose).2.analyst? = some analyst.next := by
  rw [perform_diagnose found]
  split
  · exact analyst?_consider _ _
  · rfl

end Sampler

/-! ### Events -/

/-- What happens to a sampler. -/
inductive SamplerEvent where
  | task (task : SamplerTask)
  | configure (config : Config)
  | machine (change : Machine → Machine)
  | recipient (change : Recipient → Recipient)

namespace Recipient

/-- The sets of reports that a recipient has and has not passed on. -/
def sets : Recipient → List (List Report)
  | delivery d => d.queued
  | recorder r => r.sets

theorem sets_enqueue (recipient : Recipient) (reports : List Report) :
    (recipient.enqueue reports).sets = recipient.sets ++ [reports] := by
  cases recipient with
  | delivery d => exact d.queued_enqueue reports
  | recorder r => rfl

theorem sets_configure (recipient : Recipient) (config : Config) :
    (recipient.configure config).sets = recipient.sets := by
  cases recipient <;> rfl

end Recipient

namespace Sampler

def happen (sampler : Sampler) : SamplerEvent → Sampler
  | .task task => (sampler.perform task).2
  | .configure config => sampler.configure config
  | .machine change => { sampler with machine := change sampler.machine }
  | .recipient change => { sampler with recipient? := sampler.recipient?.map change }

def run (sampler : Sampler) (events : List SamplerEvent) : Sampler := events.foldl happen sampler

@[simp] theorem run_nil (sampler : Sampler) : sampler.run [] = sampler := rfl

@[simp] theorem run_cons (sampler : Sampler) (first : SamplerEvent) (rest : List SamplerEvent) :
    sampler.run (first :: rest) = (sampler.happen first).run rest := rfl

theorem run_append (sampler : Sampler) (first second : List SamplerEvent) :
    sampler.run (first ++ second) = (sampler.run first).run second := List.foldl_append

/-- What the analyst finds at an event, which has to be a look for problems. -/
def found? (sampler : Sampler) : SamplerEvent → Option (List Report)
  | .task .diagnose => sampler.finding?
  | _ => none

def findings (sampler : Sampler) : List SamplerEvent → List (List Report)
  | [] => []
  | first :: rest => (sampler.found? first).toList ++ (sampler.happen first).findings rest

/-- The sets of reports that the recipient has. -/
def received (sampler : Sampler) : List (List Report) := (sampler.recipient?.map Recipient.sets).getD []

/-- The sets that the recipient gets at an event: those behind the ones that he had, unless he went on by
himself. -/
def handed (sampler : Sampler) : SamplerEvent → List (List Report)
  | .recipient _ => []
  | event => (sampler.happen event).received.drop sampler.received.length

/-- The sets that the recipient gets in a run. -/
def handovers (sampler : Sampler) : List SamplerEvent → List (List Report)
  | [] => []
  | first :: rest => sampler.handed first ++ (sampler.happen first).handovers rest

/-- The set that is kept at an event, if one is. -/
def keptAt? (sampler : Sampler) (event : SamplerEvent) : Option (List Report) :=
  (sampler.found? event).filter fun reports => keeps sampler.problems.newest? reports

theorem outlet_perform (sampler : Sampler) (task : SamplerTask) :
    (sampler.perform task).2.outlet =
      match sampler.keptAt? (.task task) with
      | none => sampler.outlet
      | some reports =>
        (sampler.problems.add reports, sampler.recipient?.map (Recipient.enqueue reports)) := by
  cases task with
  | sample => exact sampler.outlet_perform_sample
  | diagnose =>
    rw [outlet_perform_diagnose]
    unfold keptAt?
    show _ = match sampler.finding?.filter _ with | none => _ | some reports => _
    cases sampler.finding? with
    | none => rfl
    | some reports =>
      show (sampler.consider reports).outlet = _
      rw [outlet_consider, Option.filter_some]
      split <;> rfl

/-- **What an event does to the history of problems.** -/
theorem problems_happen (sampler : Sampler) (event : SamplerEvent) :
    (sampler.happen event).problems =
      match sampler.keptAt? event with
      | none => sampler.problems
      | some reports => sampler.problems.add reports := by
  cases event with
  | task task =>
    show (sampler.perform task).2.outlet.1 = _
    rw [outlet_perform]
    split <;> rfl
  | _ => rfl

theorem isSome_recipient?_happen {sampler : Sampler} (given : sampler.recipient?.isSome)
    (event : SamplerEvent) : (sampler.happen event).recipient?.isSome := by
  cases event with
  | task task =>
    show (sampler.perform task).2.outlet.2.isSome
    rw [outlet_perform]
    split
    · exact given
    · rw [Option.isSome_map]
      exact given
  | configure config =>
    show (sampler.recipient?.map _).isSome
    rw [Option.isSome_map]
    exact given
  | machine change => exact given
  | recipient change =>
    show (sampler.recipient?.map _).isSome
    rw [Option.isSome_map]
    exact given

/-- **What an event does to the sets of the recipient**, unless he goes on by himself. -/
theorem received_happen {sampler : Sampler} (given : sampler.recipient?.isSome) (event : SamplerEvent)
    (own : ∀ change, event ≠ .recipient change) :
    (sampler.happen event).received = sampler.received ++ (sampler.keptAt? event).toList := by
  obtain ⟨recipient, recipient_eq⟩ := Option.isSome_iff_exists.1 given
  have received_eq : sampler.received = recipient.sets := by
    unfold received
    rw [recipient_eq]
    rfl
  rw [received_eq]
  cases event with
  | task task =>
    show ((sampler.perform task).2.outlet.2.map Recipient.sets).getD [] = _
    rw [outlet_perform]
    cases sampler.keptAt? (.task task) with
    | none =>
      show sampler.received = recipient.sets ++ []
      rw [received_eq, List.append_nil]
    | some reports =>
      show ((sampler.recipient?.map _).map _).getD [] = recipient.sets ++ [reports]
      rw [recipient_eq]
      exact recipient.sets_enqueue reports
  | configure config =>
    show ((sampler.recipient?.map _).map _).getD [] = recipient.sets ++ []
    rw [recipient_eq, List.append_nil]
    exact recipient.sets_configure config
  | machine change =>
    show sampler.received = recipient.sets ++ []
    rw [received_eq, List.append_nil]
  | recipient change => exact absurd rfl (own change)

/-- What the recipient gets at an event is what is kept at it. -/
theorem handed_eq {sampler : Sampler} (given : sampler.recipient?.isSome) (event : SamplerEvent) :
    sampler.handed event = (sampler.keptAt? event).toList := by
  cases event with
  | recipient change => rfl
  | task task =>
    show (sampler.happen (.task task)).received.drop _ = _
    rw [received_happen given (.task task) nofun, List.drop_left]
  | configure config =>
    show (sampler.happen (.configure config)).received.drop _ = _
    rw [received_happen given (.configure config) nofun, List.drop_left]
  | machine change =>
    show (sampler.happen (.machine change)).received.drop _ = _
    rw [received_happen given (.machine change) nofun, List.drop_left]

end Sampler

end HostWatch
