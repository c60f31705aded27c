/-
**Incidents in the window of a sampler.**

The samples of a sampler are looked at through a window: a history, which forgets the oldest ones. The rules
on CPU usage look for incidents in it, that is for enough samples at or above a threshold, one after the other.

* `History.left`: how much of a row of items is left among the newest ones.
* `Sampler.percentages_of_recorded`: the rules look at percentages, whatever was measured.
* `Sampler.run_showsIncidents`: **no incident inside the window is missed and none is invented**, for a new
  sampler and whatever happens to it.
* `Sampler.run_showsIncidents_spike`: a row of collections that comes into the window, stays for a while and leaves it.
-/

import HostWatch.Proofs.Problem.UsageRule
import HostWatch.Proofs.Sampler.Measuring

namespace HostWatch

namespace History

/-- **How many of some items in a row are left among the newest ones**, given how many stood in front of them
and how many there are by now. -/
def left (capacity total before count : Nat) : Nat := count - (total - capacity - before)

end History

namespace Sampler

open Sampling Stateful

/-- The rules on CPU usage look at percentages: the samples that are taken are in range. -/
theorem percentages_of_recorded (rule : UsageRule) (sampler : Sampler) (events : List SamplerEvent) {samples : List Sample}
    (taken : ∀ sample ∈ samples, sample ∈ sampler.recorded events) : rule.Percentages samples := by
  intro sample member
  have range := inRange_of_mem_recorded (taken sample member)
  cases rule with
  | collections => exact range.percent .collections
  | cores => exact ⟨Int.le_trans (range.percent .host).1 range.busiest.1, range.busiest.2⟩

/-! ### New samplers -/

/-- **A sampler whose window shows the incidents**, when an analyzer goes by a rule. -/
structure ShowsIncidents (sampler : Sampler) (events : List SamplerEvent) (analyzer : Analyzer)
    (rule : UsageRule) : Prop where
  /-- The window has the newest of the samples that were taken. -/
  window_eq : (sampler.run events).samples.items =
    History.newest sampler.samplePlan.historyLength (sampler.recorded events)
  /-- It has as many as were taken and as there is room for. -/
  length_eq : (sampler.run events).samples.items.length =
    min (sampler.recorded events).length sampler.samplePlan.historyLength
  /-- The rule flags a problem exactly when enough samples in the window are high, one after the other. -/
  answers : rule.Answers analyzer (sampler.run events).samples.items <|
    ∃ incident, incident <:+: (sampler.run events).samples.items ∧
      incident.length = (analyzer.config.integer rule.required).toNat ∧
      ∀ sample ∈ incident, analyzer.config.integer rule.threshold ≤ rule.figure sample
  /-- An incident stays flagged, whatever happens later, until too few of its samples are left. -/
  stays : ∀ later before incident after, sampler.recorded events = before ++ incident ++ after →
    (∀ sample ∈ incident, analyzer.config.integer rule.threshold ≤ rule.figure sample) →
    analyzer.config.integer rule.required ≤ History.left sampler.samplePlan.historyLength
      (sampler.recorded (events ++ later)).length before.length incident.length →
    rule.Answers analyzer (sampler.run (events ++ later)).samples.items True
  /-- A rule that requires more samples than the window has room for flags nothing. -/
  never : sampler.samplePlan.historyLength < analyzer.config.integer rule.required →
    rule.Answers analyzer (sampler.run events).samples.items False

/-- It is enough that the window was empty before, with the room that the plan says. -/
theorem showsIncidents_of_empty {sampler : Sampler} {analyzer : Analyzer}
    (empty : sampler.samples.items = [])
    (capacity : sampler.samples.capacity = sampler.samplePlan.historyLength)
    (valid : analyzer.config.Valid) (interval : analyzer.plan.interval < tellable) (rule : UsageRule)
    (few : analyzer.config.integer rule.required < tellable) (events : List SamplerEvent) :
    sampler.ShowsIncidents events analyzer rule := by
  have window (events : List SamplerEvent) : (sampler.run events).samples.items =
      History.newest sampler.samplePlan.historyLength (sampler.recorded events) := by
    rw [items_samples_run, empty, capacity, List.nil_append]
  have answers (events : List SamplerEvent) :
      rule.Answers analyzer (sampler.run events).samples.items
        (rule.Incident analyzer.config (sampler.run events).samples.items) := by
    refine rule.answers_incident valid interval few (percentages_of_recorded rule sampler events fun sample member => ?_)
    rw [window] at member
    exact List.mem_of_mem_drop member
  refine ⟨window events, ?_, answers events, fun later before incident after parts each enough => ?_,
    fun large => ?_⟩
  · rw [window, History.length_newest]
  -- What is taken later only adds to what stands behind the incident.
  · have total : sampler.recorded (events ++ later) =
        before ++ incident ++ (after ++ (sampler.run events).recorded later) := by
      rw [recorded_append, parts, List.append_assoc]
    refine (answers (events ++ later)).congr (iff_true_intro ?_)
    rw [total] at enough
    rw [window, total]
    exact hasBlock_drop_of_le each (Int.toNat_le.2 enough)
  · refine (answers events).congr (iff_false_intro fun incident => ?_)
    have room := incident.length_le
    rw [window, History.length_newest] at room
    omega

/-- **No incident inside the window is missed and none is invented** by a new sampler, whatever happens to it
and whoever else looks at the samples. -/
theorem run_showsIncidents (samplePlan problemPlan : SamplingPlan) (meters : CpuFigure → CpuMeter)
    (memory : MemorySource) (registry : LockRegistry) (analyst? : Option Analyst)
    (recipient? : Option Recipient) (machine : Machine) (events : List SamplerEvent) {analyzer : Analyzer}
    (valid : analyzer.config.Valid) (interval : analyzer.plan.interval < tellable) (rule : UsageRule)
    (few : analyzer.config.integer rule.required < tellable) :
    (of samplePlan problemPlan meters memory registry analyst? recipient? machine).ShowsIncidents
      events analyzer rule :=
  showsIncidents_of_empty rfl rfl valid interval rule few events

/-! ### A spike -/

/-- A machine at another moment. -/
def atMoment (machine : Machine) (clock : Int) : Machine :=
  { machine with host := { machine.host with clock := clock } }

/-- A second on a machine, which begins with a collection of so many milliseconds. -/
def passSecond (collecting : Int) (machine : Machine) : Machine :=
  let clock := machine.host.clock
  let begun := ((collectionEvent "start" (some 0)).run.run machine).2
  let ended := ((collectionEvent "stop" (some 0)).run.run (atMoment begun (clock + collecting))).2
  atMoment ended (clock + 1000)

/-- A sample at the start and one after each second, given the milliseconds that the collection in it takes. -/
def eachSecond (collecting : List Int) : List SamplerEvent :=
  .task .sample :: collecting.flatMap fun millis => [.machine (passSecond millis), .task .sample]

/-- A new sampler with room for three samples, which measures the collections alone. -/
def spiked : Sampler :=
  of { SamplingPlan.forSamples with historyLength := 3, one_le_historyLength := by decide } .forProblems
    (fun | .collections => .of .collections | _ => .of .nothing) .none .empty none none (.ofHost .bare)

/-- An analyzer by which two samples with sixty percent spent on collections are an incident. -/
def wary : Analyzer where
  config := { Config.default with integer := fun
    | .gcCpuThreshold => 60
    | .gcCpuSamples => 2
    | field => field.default }
  plan := .forSamples
  sources := Analyzer.blank
  registry := .empty

/-- What the analyzer says after some seconds. -/
abbrev SaysAfter (collecting : List Int) (problem : Prop) : Prop :=
  UsageRule.collections.Answers wary (spiked.run (eachSecond collecting)).samples.items problem

theorem run_showsIncidents_spike :
    wary.config.Valid ∧ wary.plan.interval < tellable ∧ wary.config.integer .gcCpuSamples < tellable ∧
      (∀ collecting, spiked.ShowsIncidents (eachSecond collecting) wary .collections) ∧
      (spiked.recorded (eachSecond [800, 900, 0, 0])).map Sample.gcCpu = [0, 80, 90, 0, 0] ∧
      SaysAfter [800] False ∧ SaysAfter [800, 900] True ∧ SaysAfter [800, 900, 0] True ∧
      SaysAfter [800, 900, 0, 0] False := by
  have valid : wary.config.Valid := by
    intro field
    cases field <;> exact ⟨by decide, by rintro greatest ⟨⟩ <;> decide⟩
  have interval : wary.plan.interval < tellable := by decide
  have few : wary.config.integer .gcCpuSamples < tellable := by decide
  have shows (collecting : List Int) : spiked.ShowsIncidents (eachSecond collecting) wary .collections :=
    run_showsIncidents _ _ _ _ _ _ _ _ (eachSecond collecting) valid interval .collections few
  -- Whether there is an incident can be read off the figures in the window.
  have reads {collecting figures : List Int}
      (window : (spiked.run (eachSecond collecting)).samples.items.map Sample.gcCpu = figures) :
      SaysAfter collecting (2 ≤ (Run.longest 60 figures).length) := by
    refine (shows collecting).answers.congr ?_
    rw [← window, Run.le_length_longest_iff, hasBlock_map]
    exact Iff.rfl
  have early : SaysAfter [800] (2 ≤ (Run.longest 60 [0, 80]).length) := reads (by decide +kernel)
  have flagged : SaysAfter [800, 900] (2 ≤ (Run.longest 60 [0, 80, 90]).length) := reads (by decide +kernel)
  have gone : SaysAfter [800, 900, 0, 0] (2 ≤ (Run.longest 60 [90, 0, 0]).length) := reads (by decide +kernel)
  refine ⟨valid, interval, few, shows, by decide +kernel, early.congr (by decide), flagged.congr (by decide), ?_,
    gone.congr (by decide)⟩
  -- The incident is still there when one more sample has come.
  have later : eachSecond [800, 900, 0] = eachSecond [800, 900] ++ [.machine (passSecond 0), .task .sample] := rfl
  have taken := List.take_append_drop 1 (spiked.recorded (eachSecond [800, 900]))
  unfold SaysAfter
  rw [later]
  refine (shows [800, 900]).stays _ ((spiked.recorded (eachSecond [800, 900])).take 1)
    ((spiked.recorded (eachSecond [800, 900])).drop 1) [] ?_ ?_ ?_
  · rw [taken, List.append_nil]
  · decide +kernel
  · decide +kernel

end Sampler

end HostWatch
