/-
**Plans of periodic sampling.**

A plan says how many items are kept, how long it is from one sample to the next and how long the first
one waits. The type guarantees at least one item, at least a millisecond between samples and no
negative wait; the constructor checks this in that order.
-/
import HostWatch.Config.Fault
import HostWatch.Number

namespace HostWatch

/-- When samples are taken and how many are kept. -/
structure SamplingPlan where
  /-- How many items are kept. -/
  historyLength : Nat
  /-- The time from one sample to the next, in milliseconds. -/
  interval : Int
  /-- The time to the first sample, in milliseconds. -/
  delay : Int
  one_le_historyLength : 1 ≤ historyLength
  one_le_interval : 1 ≤ interval
  delay_nonneg : 0 ≤ delay

namespace SamplingPlan

/-- The plan with the given figures, or the first one that is too small. -/
def of? (historyLength interval delay : Int) : Except Config.Fault SamplingPlan :=
  if h : 1 ≤ historyLength then
    if i : 1 ≤ interval then
      if d : 0 ≤ delay then .ok ⟨historyLength.toNat, interval, delay, by omega, i, d⟩
      else .error (Config.Fault.negativeDelay delay).raised
    else .error (Config.Fault.intervalTooShort interval).raised
  else .error (Config.Fault.historyTooShort historyLength).raised

/-- A sample each second, from the start on, for two and a half minutes. -/
def forSamples : SamplingPlan := ⟨150, 1000, 0, by decide, by decide, by decide⟩

/-- A diagnosis each ten seconds, half a second from the start on, the last twenty kept. -/
def forProblems : SamplingPlan := ⟨20, 10000, 500, by decide, by decide, by decide⟩

/-- A number of milliseconds in seconds. -/
def seconds (milliseconds : Int) : Except ArithmeticFault Binary64 :=
  Binary64.ofQuotient milliseconds 1000

/-- The time from one sample to the next, in seconds. -/
def intervalSeconds (plan : SamplingPlan) : Except ArithmeticFault Binary64 :=
  seconds plan.interval

end SamplingPlan

end HostWatch
