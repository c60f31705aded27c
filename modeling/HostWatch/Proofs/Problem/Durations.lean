/-
**Durations that can be told.**

A duration is told in seconds, as a binary number: so many samples, times the seconds between two of them.
Both factors have to be within the binary format. Their product need not be; an infinite one is told as
such.

* `Analyzer.exists_spanText`: the time that fewer than `10 ^ 15` samples take can be told when there are fewer
  milliseconds than that between two of them.
-/

import HostWatch.Problem.Analyzer
import HostWatch.Proofs.Binary64.Rounding

namespace HostWatch

/-- Counts and milliseconds below this bound, `10 ^ 15`, can be told. -/
def tellable : Int := 1000000000000000

theorem natAbs_lt_of_tellable {n : Int} (nonneg : 0 ≤ n) (lt : n < tellable) :
    n.natAbs < Nat.pow 2 50 := by
  have power : Nat.pow 2 50 = 1125899906842624 := rfl
  unfold tellable at lt
  omega

theorem SamplingPlan.exists_intervalSeconds {plan : SamplingPlan} (lt : plan.interval < tellable) :
    ∃ x, plan.intervalSeconds = .ok x := by
  have small := natAbs_lt_of_tellable (Int.le_trans (by decide) plan.one_le_interval) lt
  refine Binary64.exists_ofQuotient (b := 1000) (k := 50) (by decide) ?_
  exact Nat.lt_of_lt_of_le small (Nat.le_mul_of_pos_left _ (by decide))

/-- **The time that so many samples take can be told.** -/
theorem Analyzer.exists_spanText {plan : SamplingPlan} {samples : Int} (interval : plan.interval < tellable)
    (nonneg : 0 ≤ samples) (few : samples < tellable) : ∃ text, spanText plan samples = .ok text := by
  obtain ⟨seconds, seconds_eq⟩ := SamplingPlan.exists_intervalSeconds interval
  obtain ⟨count, count_eq⟩ :=
    Binary64.exists_ofInteger (k := 50) (by decide) (natAbs_lt_of_tellable nonneg few)
  refine ⟨(count.mul seconds).sixDigitText, ?_⟩
  unfold spanText samplesInSeconds
  rw [seconds_eq, count_eq]
  rfl

end HostWatch
