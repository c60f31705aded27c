/-
**The rules on CPU usage.**

Two rules look at the samples, one at the usage by garbage collections, one at the usage of the busiest core.
They differ in the figure of a sample that they look at and in the fields of the configuration that they go
by, and in nothing else that decides whether there is a problem.

* `UsageRule.Incident`: **so many samples, one after the other, at or above the threshold.**
* `UsageRule.exists_find`: what a rule finds among percentages flags exactly an incident.
* `UsageRule.Answers`: **what an analyzer says on a rule**, asked about the rule or about everything.
* `UsageRule.answers_incident`: an analyzer that can tell the times of a rule says whether there is an incident.
-/

import HostWatch.Proofs.Problem.BestRun
import HostWatch.Proofs.Problem.Guard
import HostWatch.Proofs.Text.Decimal

namespace HostWatch

/-- The rules on CPU usage. -/
inductive UsageRule where
  | collections
  | cores

namespace UsageRule

/-- What the reports by a rule are about. -/
def topic : UsageRule → Topic
  | collections => .gcCpu
  | cores => .cpu

def figure : UsageRule → Sample → Int
  | collections => Sample.gcCpu
  | cores => fun sample => sample.cpu.busiest

/-- The field with the threshold of a rule. -/
def threshold : UsageRule → Config.IntegerField
  | collections => .gcCpuThreshold
  | cores => .cpuThreshold

/-- The field with the number of samples that a rule requires. -/
def required : UsageRule → Config.IntegerField
  | collections => .gcCpuSamples
  | cores => .cpuSamples

/-- **So many samples, one after the other, at or above the threshold.** -/
def Incident (rule : UsageRule) (config : Config) (samples : List Sample) : Prop :=
  HasBlock (fun sample => config.integer rule.threshold ≤ rule.figure sample)
    (config.integer rule.required).toNat samples

theorem one_le_required (rule : UsageRule) {config : Config} (valid : config.Valid) :
    1 ≤ config.integer rule.required := by
  cases rule with
  | collections => exact (valid .gcCpuSamples).1
  | cores => exact (valid .cpuSamples).1

theorem not_incident_nil (rule : UsageRule) {config : Config} (valid : config.Valid) :
    ¬ rule.Incident config [] := by
  intro incident
  have few := incident.length_le
  have positive := rule.one_le_required valid
  rw [List.length_nil] at few
  omega

/-! ### What a rule finds -/

/-- What a rule finds in some samples. -/
def find (rule : UsageRule) (config : Config) (interval : Binary64) (samples : List Sample) :
    Except NumeralFault Finding :=
  match rule with
  | collections => Rules.gcCpuFinding config interval samples
  | cores => Rules.cpuFinding config interval samples

/-- Whether the figure of a rule is a percentage, in each of some samples. -/
def Percentages (rule : UsageRule) (samples : List Sample) : Prop :=
  ∀ sample ∈ samples, 0 ≤ rule.figure sample ∧ rule.figure sample ≤ 100

variable {config : Config} (rule : UsageRule)

theorem isWritable_of_percentage {n : Int} (range : 0 ≤ n ∧ n ≤ 100) : Text.isWritable n :=
  Text.isWritable_of_le range.1 range.2 (by decide +kernel)

/-- Statistics with averages that can be written are told, and flag the run that counts. -/
theorem exists_runFinding {stats : RunStats} (window : 0 ≤ stats.average ∧ stats.average ≤ 100)
    (run : 0 ≤ stats.run.average ∧ stats.run.average ≤ 100) (threshold : Int) (spender averaged : String) :
    ∃ finding, Rules.runFinding stats threshold spender averaged = .ok finding ∧ finding.flagged = stats.triggered := by
  unfold Rules.runFinding
  rw [Text.decimal_of_isWritable (isWritable_of_percentage window), Text.decimal_of_isWritable (isWritable_of_percentage run)]
  cases stats.triggered <;> exact ⟨_, rfl, rfl⟩

/-- Given samples, a rule goes by the statistics of its figure. -/
theorem exists_find_cons {sample : Sample} {rest : List Sample} (percentages : rule.Percentages (sample :: rest))
    (interval : Binary64) :
    ∃ finding, rule.find config interval (sample :: rest) = .ok finding ∧
      finding.flagged = (RunStats.of ((sample :: rest).map rule.figure) (config.integer rule.threshold)
        (config.integer rule.required) interval).triggered := by
  obtain ⟨window, run⟩ := RunStats.averages_range (by decide) (List.forall_mem_map.2 percentages)
    (config.integer rule.threshold) (config.integer rule.required) interval
  cases rule with
  | collections => exact exists_runFinding window run _ "GC" "GC CPU"
  | cores => exact exists_runFinding window run _ "A CPU core" "max CPU core"

/-- **What a rule finds flags exactly an incident.** -/
theorem exists_find (valid : config.Valid) (interval : Binary64) {samples : List Sample}
    (percentages : rule.Percentages samples) :
    ∃ finding, rule.find config interval samples = .ok finding ∧
      (finding.flagged = true ↔ rule.Incident config samples) := by
  cases samples with
  | nil =>
    have nothing : rule.find config interval [] = .ok ⟨false, Rules.noData⟩ := by cases rule <;> rfl
    exact ⟨_, nothing, iff_of_false Bool.false_ne_true (rule.not_incident_nil valid)⟩
  | cons sample rest =>
    obtain ⟨finding, found, flagged_eq⟩ := rule.exists_find_cons percentages interval
    refine ⟨finding, found, ?_⟩
    rw [flagged_eq, RunStats.triggered_of_iff _ _ (rule.one_le_required valid), hasBlock_map]
    exact Iff.rfl

/-! ### What an analyzer says -/

open Analyzer

theorem exists_description {plan : SamplingPlan} {text : String}
    (told : spanText plan (config.integer rule.required) = .ok text) :
    ∃ text, description config plan rule.topic = .ok text := by
  cases rule with
  | collections =>
    unfold description
    exact ⟨_, congrArg (fun span => span.mapError Failure.arithmetic >>= _) told⟩
  | cores =>
    unfold description
    exact ⟨_, congrArg (fun span => span.mapError Failure.arithmetic >>= _) told⟩

variable {analyzer : Analyzer} {samples : List Sample}

/-- A rule on CPU usage does not look at the machine, and finds what it finds in the samples if the time between two of
them can be told. -/
theorem run_finding {seconds : Binary64} (told : analyzer.plan.intervalSeconds = .ok seconds) {finding : Finding}
    (found : rule.find analyzer.config seconds samples = .ok finding) (machine : Machine) :
    (analyzer.finding samples rule.topic).run.run machine = (.ok finding, machine) := by
  have interval : (Analyzer.finding.interval analyzer).run.run machine = (.ok seconds, machine) := by
    unfold Analyzer.finding.interval
    rw [told]
    rfl
  cases rule with
  | collections =>
    refine (Stateful.run_bind_of_ok interval _).trans ?_
    rw [show Rules.gcCpuFinding analyzer.config seconds samples = .ok finding from found]
    rfl
  | cores =>
    refine (Stateful.run_bind_of_ok interval _).trans ?_
    rw [show Rules.cpuFinding analyzer.config seconds samples = .ok finding from found]
    rfl

/-- **What an analyzer says on a rule**: there is a problem exactly in some case. -/
structure Answers (rule : UsageRule) (analyzer : Analyzer) (samples : List Sample) (problem : Prop) :
    Prop where
  report : ∀ machine, ∃ report, ((analyzer.report samples rule.topic).run.run machine).1 = .ok report ∧
    report.title = rule.topic.title ∧ (report.flagged = true ↔ problem)
  /-- Asked about everything it makes such a report among others, if it can answer for all of its rules. -/
  problems : ∀ machine, Describable analyzer.config analyzer.plan → FailuresTold (analyzer.finding samples) machine →
    ∃ reports, ((analyzer.problems samples).run.run machine).1 = .ok reports ∧
      (∃ report ∈ reports, report.title = rule.topic.title) ∧
      ∀ report ∈ reports, report.title = rule.topic.title → (report.flagged = true ↔ problem)

theorem Answers.congr {rule : UsageRule} {problem other : Prop}
    (answers : rule.Answers analyzer samples problem) (same : problem ↔ other) :
    rule.Answers analyzer samples other :=
  propext same ▸ answers

/-- **An analyzer says whether there is an incident**, whatever its other rules find and whether or not they
fail. -/
theorem answers_incident (valid : analyzer.config.Valid) (interval : analyzer.plan.interval < tellable)
    (few : analyzer.config.integer rule.required < tellable) (percentages : rule.Percentages samples) :
    rule.Answers analyzer samples (rule.Incident analyzer.config samples) := by
  have positive := rule.one_le_required valid
  obtain ⟨span, spanTold⟩ := exists_spanText interval (by omega) few
  obtain ⟨text, described⟩ := rule.exists_description spanTold
  obtain ⟨seconds, told⟩ := SamplingPlan.exists_intervalSeconds interval
  obtain ⟨finding, found, flagged_iff⟩ := rule.exists_find valid seconds percentages
  have ends (machine : Machine) := rule.run_finding told found machine
  refine ⟨fun machine => ?_, fun machine describable failuresTold => ?_⟩
  · obtain ⟨report, reported, title_eq, flagged_eq, -⟩ :=
      exists_report_of_finding (congrArg Prod.fst (ends machine)) described
    exact ⟨report, reported, title_eq, by rw [flagged_eq, flagged_iff]⟩
  · obtain ⟨reports, made⟩ := exists_reports_iff.2 ⟨describable, failuresTold⟩
    refine ⟨reports, made, ?_, fun report member same => ?_⟩
    · have titled : rule.topic.title ∈ reports.map Report.title := by
        rw [titles_of_reports made]
        exact List.mem_map_of_mem rule.topic.mem_all
      exact List.mem_map.1 titled
    -- A report on the rule says the same whatever the rules before it did to the machine.
    · obtain ⟨⟨topic, before⟩, -, reported⟩ := (mem_reports_iff made report).1 member
      obtain rfl : topic = rule.topic := Topic.title_injective ((title_of_reportAt reported).symm.trans same)
      obtain ⟨-, other, -, answer, rfl⟩ := reportAt_eq_ok_iff.1 reported
      rw [ends before] at answer
      obtain rfl : finding = other := Except.ok.inj answer
      exact flagged_iff

end UsageRule

end HostWatch
