/-
**The samples that a sampler takes.**

A sampler adds each sample that it takes to a history, which forgets the oldest ones. Nothing else that happens to the
sampler changes this history, and a measurement that fails adds nothing.

* `Sampler.recorded`: **the samples that are taken in a run**, also those that the history forgot.
* `Sampler.samples_happen`: what one event does to the history.
* `Sampler.items_samples_run`: the history has the newest of the samples that are taken, by induction on the events.
-/

import HostWatch.Proofs.Sampler.Happening

namespace HostWatch

namespace Sampler

open Sampling Stateful

/-- The sample that is taken at an event, if one is; none when its measurements fail. -/
def recorded? (sampler : Sampler) : SamplerEvent → Option Sample
  | .task .sample => (takeSample.run.run sampler).1.toOption
  | _ => none

/-- **The samples that are taken in a run.** -/
def recorded (sampler : Sampler) : List SamplerEvent → List Sample
  | [] => []
  | first :: rest => (sampler.recorded? first).toList ++ (sampler.happen first).recorded rest

theorem recorded_append (sampler : Sampler) (first second : List SamplerEvent) :
    sampler.recorded (first ++ second) = sampler.recorded first ++ (sampler.run first).recorded second := by
  induction first generalizing sampler with
  | nil => rfl
  | cons event rest ih =>
    show _ ++ (sampler.happen event).recorded (rest ++ second) = (_ ++ _) ++ _
    rw [ih, List.append_assoc]
    rfl

/-- Taking a sample adds it to the window, unless a measurement fails. -/
theorem samples_perform_sample (sampler : Sampler) :
    (sampler.perform .sample).2.samples =
      match sampler.recorded? (.task .sample) with
      | none => sampler.samples
      | some sample => sampler.samples.add sample := by
  have kept : Keeps Sampler.samples takeSample := keeps_takeSample fun _ _ _ => rfl
  have same := kept sampler
  show ((takeSample >>= fun sample => modify fun sampler => sampler.record sample : Sampling Unit).run.run
    sampler).2.samples = match (takeSample.run.run sampler).1.toOption with | none => _ | some sample => _
  rw [run_bind]
  generalize takeSample.run.run sampler = result at same
  obtain ⟨outcome, after⟩ := result
  cases outcome with
  | error failure => exact same
  | ok sample =>
    show after.samples.add sample = sampler.samples.add sample
    rw [show after.samples = sampler.samples from same]

/-- A look for problems leaves the window alone. -/
theorem samples_perform_diagnose (sampler : Sampler) :
    (sampler.perform .diagnose).2.samples = sampler.samples := by
  cases found : sampler.analyst? with
  | none => rw [perform_diagnose_of_none found]
  | some analyst =>
    rw [perform_diagnose found]
    split
    · unfold consider
      split <;> rfl
    · rfl

/-- **What an event does to the window.** -/
theorem samples_happen (sampler : Sampler) (event : SamplerEvent) :
    (sampler.happen event).samples =
      match sampler.recorded? event with
      | none => sampler.samples
      | some sample => sampler.samples.add sample := by
  cases event with
  | task task =>
    cases task with
    | sample => exact sampler.samples_perform_sample
    | diagnose => exact sampler.samples_perform_diagnose
  | _ => rfl

theorem capacity_samples_happen (sampler : Sampler) (event : SamplerEvent) :
    (sampler.happen event).samples.capacity = sampler.samples.capacity := by
  rw [samples_happen]
  split <;> rfl

/-- **The window after a run** has the newest of the samples that it had and those that are taken. -/
theorem items_samples_run (sampler : Sampler) (events : List SamplerEvent) :
    (sampler.run events).samples.items =
      History.newest sampler.samples.capacity (sampler.samples.items ++ sampler.recorded events) := by
  induction events generalizing sampler with
  | nil =>
    show sampler.samples.items = History.newest _ (_ ++ [])
    rw [List.append_nil, History.newest_eq_self sampler.samples.length_le]
  | cons first rest ih =>
    rw [run_cons, ih, capacity_samples_happen, samples_happen]
    show _ = History.newest _ (_ ++ ((sampler.recorded? first).toList ++ _))
    cases sampler.recorded? first with
    | none => rfl
    | some sample =>
      show History.newest _ ((sampler.samples.add sample).items ++ _) =
        History.newest _ (_ ++ ([sample] ++ _))
      rw [History.items_add, History.newest_newest_append, List.append_assoc]

end Sampler

end HostWatch
