/-
**How the analyzer guards its rules.**

The analyzer asks its rules one after the other. A rule may fail, and what it found out about the machine
before it failed stays. The guard turns a failure into a report, so that all rules are asked. Outside of the guard
two things remain that can fail: a rule is described, and the failure that the guard caught is told.

* `Analyzer.run_guarded`: a guarded rule fails only when its failure cannot be told.
* `Analyzer.reportBy`, `problemsBy`: the reports by any rules in place of those of an analyzer.
* `Analyzer.asked`, `reportAt`: the machines that the rules are asked about, and the report of a rule on one of them.
* `Analyzer.fst_run_problemsBy`: **the reports are made one by one.**
* `Analyzer.exists_report_of_finding`, `exists_report_of_failure`: what a rule found is what its report says, and how a
  rule that failed is reported.
* `Analyzer.exists_reports_iff`: **there are reports exactly when all rules can be described, and all failures of
  rules can be told.**
* `Analyzer.guards_iff`: **all rules are answered for, each apart from the others, in just these cases.**
* `Analyzer.problems_of_endless_run`: a configuration whose description cannot be made silences all rules.
-/

import HostWatch.Proofs.Problem.Durations
import HostWatch.Proofs.Stateful
import Mathlib.Logic.Function.Basic

namespace HostWatch

theorem Topic.mem_all (topic : Topic) : topic ∈ all := by
  cases topic <;> decide

theorem Topic.title_injective : Function.Injective Topic.title := by
  intro a b same
  cases a <;> cases b <;> first | rfl | simp [title] at same

namespace Analyzer

open Stateful

/-! ### One rule -/

/-- What stands in the report on a rule that ended in some way, if that can be told. -/
def answered : Except Failure Finding → Except NumeralFault Finding
  | .ok finding => .ok finding
  | .error failure => failedFinding failure

theorem run_guarded (rule : Probe Finding) (machine : Machine) :
    (guarded rule).run.run machine =
      ((answered (rule.run.run machine).1).mapError Failure.numeral, (rule.run.run machine).2) := by
  unfold guarded
  rw [run_bind, Probe.run_outcome]
  cases (rule.run.run machine).1 with
  | ok finding => rfl
  | error failure => exact Probe.run_ofExcept ..

theorem failedFinding_eq_ok_iff {failure : Failure} {finding : Finding} :
    failedFinding failure = .ok finding ↔
      ∃ text, failure.message = .ok text ∧ finding = ⟨false, "Failed to evaluate: " ++ text⟩ := by
  unfold failedFinding
  cases failure.message with
  | error fault => exact iff_of_false nofun nofun
  | ok text => exact ⟨fun made => ⟨text, rfl, (Except.ok.inj made).symm⟩, by rintro ⟨_, ⟨⟩, rfl⟩; rfl⟩

/-! ### Any rules -/

/-- The report on a topic by some rules. -/
def reportBy (config : Config) (plan : SamplingPlan) (rules : Topic → Probe Finding) (topic : Topic) :
    Probe Report := do
  let description ← Probe.ofExcept (description config plan topic)
  let finding ← guarded (rules topic)
  return ⟨topic.title, finding.flagged, finding.diagnosis, description, (← Probe.host).time⟩

/-- The reports on all topics by some rules. -/
def problemsBy (config : Config) (plan : SamplingPlan) (rules : Topic → Probe Finding) :
    Probe (List Report) :=
  Topic.all.mapM (reportBy config plan rules)

/-- An analyzer makes its reports by its own rules. -/
theorem problems_eq (analyzer : Analyzer) (samples : List Sample) :
    analyzer.problems samples = problemsBy analyzer.config analyzer.plan (analyzer.finding samples) := rfl

section Rules

variable (config : Config) (plan : SamplingPlan) (rules : Topic → Probe Finding)

/-- The topics, each with the machine that its rule is asked about: the one that the rules before it left. -/
def asked (machine : Machine) : List (Topic × Machine) :=
  visits (fun topic machine => ((rules topic).run.run machine).2) machine Topic.all

/-- The report on a topic whose rule is asked about a machine, if it can be made. -/
def reportAt (entry : Topic × Machine) : Except Failure Report := do
  let result := (rules entry.1).run.run entry.2
  let text ← description config plan entry.1
  let finding ← (answered result.1).mapError Failure.numeral
  return ⟨entry.1.title, finding.flagged, finding.diagnosis, text, result.2.host.time⟩

variable {config plan rules}

theorem reportAt_eq_ok_iff {topic : Topic} {machine : Machine} {report : Report} :
    reportAt config plan rules (topic, machine) = .ok report ↔
      ∃ text finding, description config plan topic = .ok text ∧
        answered ((rules topic).run.run machine).1 = .ok finding ∧
        report = ⟨topic.title, finding.flagged, finding.diagnosis, text,
          ((rules topic).run.run machine).2.host.time⟩ := by
  constructor
  · intro made
    obtain ⟨text, described, made⟩ := exists_of_bind_eq_ok made
    obtain ⟨finding, told, made⟩ := exists_of_bind_eq_ok made
    exact ⟨text, finding, described, eq_ok_of_mapError told, (Except.ok.inj made).symm⟩
  · rintro ⟨text, finding, described, told, rfl⟩
    unfold reportAt
    dsimp only
    rw [described, told]
    rfl

/-- What a report says of its topic. -/
theorem title_of_reportAt {entry : Topic × Machine} {report : Report}
    (made : reportAt config plan rules entry = .ok report) : report.title = entry.1.title := by
  obtain ⟨text, finding, -, -, rfl⟩ := reportAt_eq_ok_iff.1 made
  rfl

/-- A report is made as it is of the machine that its rule is asked about, and leaves the machine that the rule
leaves. -/
theorem run_reportBy (topic : Topic) (machine : Machine) :
    ∃ after, (reportBy config plan rules topic).run.run machine = (reportAt config plan rules (topic, machine), after) ∧
      ∀ report, reportAt config plan rules (topic, machine) = .ok report →
        after = ((rules topic).run.run machine).2 := by
  unfold reportBy reportAt
  dsimp only
  cases description config plan topic with
  | error failure => exact ⟨machine, rfl, nofun⟩
  | ok text =>
    refine ⟨((rules topic).run.run machine).2, ?_, fun _ _ => rfl⟩
    rw [run_bind, Probe.run_ofExcept]
    show (guarded (rules topic) >>= _).run.run machine = _
    rw [run_bind, run_guarded]
    cases answered ((rules topic).run.run machine).1 <;> rfl

/-- **The reports are made one by one**, each of the machine that the rules before it left. -/
theorem fst_run_problemsBy (machine : Machine) :
    ((problemsBy config plan rules).run.run machine).1 = (asked rules machine).mapM (reportAt config plan rules) :=
  fst_run_mapM run_reportBy Topic.all machine

theorem run_problemsBy_eq_ok_iff {machine : Machine} {reports : List Report} :
    ((problemsBy config plan rules).run.run machine).1 = .ok reports ↔
      List.Forall₂ (fun entry report => reportAt config plan rules entry = .ok report) (asked rules machine) reports := by
  rw [fst_run_problemsBy, mapM_eq_ok_iff]

theorem exists_mem_asked (machine : Machine) (topic : Topic) : ∃ before, (topic, before) ∈ asked rules machine := by
  have member : topic ∈ (asked rules machine).map Prod.fst := by
    unfold asked
    rw [map_fst_visits]
    exact topic.mem_all
  obtain ⟨entry, inside, rfl⟩ := List.mem_map.1 member
  exact ⟨entry.2, inside⟩

section OneReport

variable {analyzer : Analyzer} {samples : List Sample} {topic : Topic} {machine : Machine} {text : String}

/-- What is answered for a rule is reported, if the rule can be described. -/
theorem exists_report_of_answered {finding : Finding}
    (answer : answered ((analyzer.finding samples topic).run.run machine).1 = .ok finding)
    (described : description analyzer.config analyzer.plan topic = .ok text) :
    ∃ report, ((analyzer.report samples topic).run.run machine).1 = .ok report ∧ report.title = topic.title ∧
      report.flagged = finding.flagged ∧ report.diagnosis = finding.diagnosis := by
  obtain ⟨after, reported, -⟩ : ∃ after, (analyzer.report samples topic).run.run machine =
      (reportAt analyzer.config analyzer.plan (analyzer.finding samples) (topic, machine), after) ∧ _ :=
    run_reportBy topic machine
  have made := reportAt_eq_ok_iff.2 ⟨text, finding, described, answer, rfl⟩
  exact ⟨_, (congrArg Prod.fst reported).trans made, rfl, rfl, rfl⟩

/-- **A finding is reported as it is.** -/
theorem exists_report_of_finding {finding : Finding}
    (found : ((analyzer.finding samples topic).run.run machine).1 = .ok finding)
    (described : description analyzer.config analyzer.plan topic = .ok text) :
    ∃ report, ((analyzer.report samples topic).run.run machine).1 = .ok report ∧ report.title = topic.title ∧
      report.flagged = finding.flagged ∧ report.diagnosis = finding.diagnosis :=
  exists_report_of_answered (congrArg answered found) described

/-- **A failure is reported**, and nothing is flagged, if it can be told. -/
theorem exists_report_of_failure {failure : Failure}
    (fails : ((analyzer.finding samples topic).run.run machine).1 = .error failure) {told : String}
    (message : failure.message = .ok told) (described : description analyzer.config analyzer.plan topic = .ok text) :
    ∃ report, ((analyzer.report samples topic).run.run machine).1 = .ok report ∧ report.title = topic.title ∧
      report.flagged = false ∧ report.diagnosis = "Failed to evaluate: " ++ told :=
  exists_report_of_answered ((congrArg answered fails).trans (failedFinding_eq_ok_iff.2 ⟨told, message, rfl⟩)) described

end OneReport

/-- With another rule on a topic, which leaves the machine as the one that stands there does, all rules are asked
about the same machines. -/
theorem asked_update {topic : Topic} {rule : Probe Finding}
    (leaves : ∀ machine, (rule.run.run machine).2 = ((rules topic).run.run machine).2) (machine : Machine) :
    asked (Function.update rules topic rule) machine = asked rules machine := by
  refine congrArg (visits · machine Topic.all) (funext fun other => funext fun machine => ?_)
  by_cases same : other = topic
  · rw [same, Function.update_self, leaves]
  · rw [Function.update_of_ne same]

/-- **The other reports are the same** with another rule on a topic. -/
theorem filter_eq_of_update {topic : Topic} {rule : Probe Finding} {entries : List (Topic × Machine)}
    {reports changed : List Report}
    (made : List.Forall₂ (fun entry report => reportAt config plan rules entry = .ok report) entries reports)
    (other : List.Forall₂ (fun entry report => reportAt config plan (Function.update rules topic rule) entry = .ok report)
      entries changed) :
    changed.filter (·.title ≠ topic.title) = reports.filter (·.title ≠ topic.title) := by
  induction made generalizing changed with
  | nil =>
    cases other
    rfl
  | @cons entry report entries reports first _ ih =>
    obtain _ | ⟨second, behind⟩ := other
    have title_eq := title_of_reportAt first
    have title_eq' := title_of_reportAt second
    by_cases same : entry.1 = topic
    · rw [same] at title_eq title_eq'
      rw [List.filter_cons_of_neg (by simp [title_eq']), List.filter_cons_of_neg (by simp [title_eq]), ih behind]
    · unfold reportAt at first second
      rw [Function.update_of_ne same, first] at second
      obtain rfl := Except.ok.inj second
      rw [List.filter_cons, List.filter_cons, ih behind]

end Rules

/-! ### All rules -/

/-- Whether all rules can be described. -/
def Describable (config : Config) (plan : SamplingPlan) : Prop :=
  ∀ topic, ∃ text, description config plan topic = .ok text

/-- Whether the failures of rules can be told, of which there may be none. -/
def FailuresTold (rules : Topic → Probe Finding) (machine : Machine) : Prop :=
  ∀ topic before failure, (topic, before) ∈ asked rules machine →
    ((rules topic).run.run before).1 = .error failure → ∃ text, failure.message = .ok text

section Answers

variable {config : Config} {plan : SamplingPlan} {rules : Topic → Probe Finding} {machine : Machine}

/-- **There are reports exactly when all rules can be described, and all failures of rules can be told.** -/
theorem exists_reports_iff :
    (∃ reports, ((problemsBy config plan rules).run.run machine).1 = .ok reports) ↔
      Describable config plan ∧ FailuresTold rules machine := by
  have one_by_one : (∃ reports, ((problemsBy config plan rules).run.run machine).1 = .ok reports) ↔
      ∀ entry ∈ asked rules machine, ∃ report, reportAt config plan rules entry = .ok report := by
    rw [fst_run_problemsBy]
    exact exists_mapM_eq_ok_iff
  rw [one_by_one]
  constructor
  · intro made
    refine ⟨fun topic => ?_, fun topic before failure member fails => ?_⟩
    · obtain ⟨before, member⟩ := exists_mem_asked machine topic
      obtain ⟨report, made⟩ := made _ member
      obtain ⟨text, -, described, -⟩ := reportAt_eq_ok_iff.1 made
      exact ⟨text, described⟩
    · obtain ⟨report, made⟩ := made _ member
      obtain ⟨-, finding, -, told, -⟩ := reportAt_eq_ok_iff.1 made
      rw [fails] at told
      obtain ⟨text, text_eq, -⟩ := failedFinding_eq_ok_iff.1 told
      exact ⟨text, text_eq⟩
  · rintro ⟨describable, told⟩ ⟨topic, before⟩ member
    obtain ⟨text, described⟩ := describable topic
    obtain ⟨finding, answer⟩ : ∃ finding, answered ((rules topic).run.run before).1 = .ok finding := by
      cases ends : ((rules topic).run.run before).1 with
      | ok finding => exact ⟨finding, rfl⟩
      | error failure =>
        obtain ⟨text, text_eq⟩ := told topic before failure member ends
        exact ⟨_, failedFinding_eq_ok_iff.2 ⟨text, text_eq, rfl⟩⟩
    exact ⟨_, reportAt_eq_ok_iff.2 ⟨text, finding, described, answer, rfl⟩⟩

theorem titles_of_reports {reports : List Report}
    (made : ((problemsBy config plan rules).run.run machine).1 = .ok reports) :
    reports.map Report.title = Topic.all.map Topic.title := by
  have titles : List.Forall₂ (fun entry title => entry.1.title = title) (asked rules machine)
      (reports.map Report.title) := by
    rw [List.forall₂_map_right_iff]
    exact (run_problemsBy_eq_ok_iff.1 made).imp fun _ _ reported => (title_of_reportAt reported).symm
  rw [← List.forall₂_map_left_iff, List.forall₂_eq_eq_eq] at titles
  rw [← titles, ← map_fst_visits (fun topic machine => ((rules topic).run.run machine).2) machine Topic.all, List.map_map]
  rfl

/-- The reports are those of the rules that are asked. -/
theorem mem_reports_iff {reports : List Report}
    (made : ((problemsBy config plan rules).run.run machine).1 = .ok reports) (report : Report) :
    report ∈ reports ↔
      ∃ entry ∈ asked rules machine, reportAt config plan rules entry = .ok report := by
  rw [fst_run_problemsBy] at made
  exact mem_iff_of_mapM made report

end Answers

/-- **All rules are answered for, each apart from the others.** -/
structure Guards (config : Config) (plan : SamplingPlan) (rules : Topic → Probe Finding)
    (machine : Machine) : Prop where
  /-- There are seven reports, always in the same order. -/
  titles : ∃ reports, ((problemsBy config plan rules).run.run machine).1 = .ok reports ∧
    reports.map Report.title = ["Deadlocked threads", "GC CPU Usage", "CPU Usage", "Memory usage",
      "GC Memory cleanup", "Free disk space", "Host Virtual Mem"]
  /-- A rule that fails where it is asked is reported as one that flags nothing and tells its failure. -/
  failed : ∀ topic before failure, (topic, before) ∈ asked rules machine →
    ((rules topic).run.run before).1 = .error failure →
    ∀ reports, ((problemsBy config plan rules).run.run machine).1 = .ok reports →
      ∃ text, failure.message = .ok text ∧ ∃ report ∈ reports, report.title = topic.title ∧
        report.flagged = false ∧ report.diagnosis = "Failed to evaluate: " ++ text
  /-- With any other rule on a topic, which leaves the machine as the one that stands there does but need
  not fail, all other reports are the same. -/
  others : ∀ topic rule,
    (∀ machine, (rule.run.run machine).2 = ((rules topic).run.run machine).2) →
    ∀ reports changed, ((problemsBy config plan rules).run.run machine).1 = .ok reports →
      ((problemsBy config plan (Function.update rules topic rule)).run.run machine).1 = .ok changed →
      changed.filter (·.title ≠ topic.title) = reports.filter (·.title ≠ topic.title)

theorem guards_of_made {config : Config} {plan : SamplingPlan} {rules : Topic → Probe Finding} {machine : Machine}
    {reports : List Report} (made : ((problemsBy config plan rules).run.run machine).1 = .ok reports) :
    Guards config plan rules machine := by
  refine ⟨⟨reports, made, titles_of_reports made⟩, fun topic before failure member fails reports given => ?_,
    fun topic rule leaves reports changed given other => ?_⟩
  · obtain ⟨-, told⟩ := exists_reports_iff.1 ⟨reports, given⟩
    obtain ⟨text, text_eq⟩ := told topic before failure member fails
    obtain ⟨described, -⟩ := exists_reports_iff.1 ⟨reports, given⟩
    obtain ⟨description, described⟩ := described topic
    have answer : answered ((rules topic).run.run before).1 = .ok ⟨false, "Failed to evaluate: " ++ text⟩ := by
      rw [fails]
      exact failedFinding_eq_ok_iff.2 ⟨text, text_eq, rfl⟩
    have reported := reportAt_eq_ok_iff.2 ⟨description, _, described, answer, rfl⟩
    exact ⟨text, text_eq, _, (mem_reports_iff given _).2 ⟨_, member, reported⟩, rfl, rfl, rfl⟩
  · rw [run_problemsBy_eq_ok_iff] at given other
    rw [asked_update leaves] at other
    exact filter_eq_of_update given other

/-- **An analyzer answers for all of its rules exactly when all of them can be described, and all of their failures
can be told**, whatever fails and whatever it looks at. -/
theorem guards_iff (analyzer : Analyzer) (samples : List Sample) (machine : Machine) :
    Guards analyzer.config analyzer.plan (analyzer.finding samples) machine ↔
      Describable analyzer.config analyzer.plan ∧ FailuresTold (analyzer.finding samples) machine := by
  rw [← exists_reports_iff]
  constructor
  · intro guards
    obtain ⟨reports, made, -⟩ := guards.titles
    exact ⟨reports, made⟩
  · rintro ⟨reports, made⟩
    exact guards_of_made made

/-! ### A run without end -/

/-- A configuration that asks for a run of more samples than there are binary numbers for. -/
def endlessRun : Config :=
  { Config.default with integer := fun field =>
      if field = .gcCpuSamples then Nat.pow 2 1024 else field.default }

def blank : Sources where
  pools := pure []
  processMemory := pure none
  mountPoints := pure []
  freeSpace _ := pure 0
  physicalMemory := pure none
  swap := pure none

/-- **A configuration that is valid can silence all rules**: the time of a run of so many samples cannot be
told, and that is found out where no guard stands. -/
theorem problems_of_endless_run :
    endlessRun.Valid ∧
      (((⟨endlessRun, .forSamples, blank, .empty⟩ : Analyzer).problems []).run.run (.ofHost .bare)).1 =
        .error (.arithmetic .integerTooLarge) := by
  constructor
  · intro field
    cases field <;> refine ⟨by decide +kernel, ?_⟩ <;> rintro greatest ⟨⟩ <;> decide +kernel
  · have interval : ∃ seconds, SamplingPlan.forSamples.intervalSeconds = .ok seconds :=
      SamplingPlan.exists_intervalSeconds (by decide)
    have infinite : Binary64.ofInt (Nat.pow 2 1024) = .infinite false := by decide +kernel
    have endless : description endlessRun .forSamples .gcCpu = .error (.arithmetic .integerTooLarge) := by
      obtain ⟨seconds, told⟩ := interval
      unfold description spanText samplesInSeconds Binary64.ofInteger
      rw [told, show endlessRun.integer .gcCpuSamples = Nat.pow 2 1024 from rfl, infinite]
      rfl
    rw [problems_eq, fst_run_problemsBy, mapM_eq_error_iff]
    -- The rule in front finds no deadlock, and the next one is not even asked.
    refine ⟨[(.deadlock, _)], (.gcCpu, _), _, rfl, ?_, ?_⟩
    · rintro entry member
      obtain rfl := List.mem_singleton.1 member
      have quiet : LockRegistry.empty.deadlocked = [] := by decide +kernel
      refine ⟨_, reportAt_eq_ok_iff.2 ⟨_, ⟨false, "None"⟩, rfl, ?_, rfl⟩⟩
      show answered ((Rules.deadlockFinding .empty).run.run _).1 = _
      unfold Rules.deadlockFinding
      rw [quiet]
      rfl
    · unfold reportAt
      rw [endless]
      rfl

end Analyzer

end HostWatch
