/-
**CPU usage over a slice of time.**

A usage is two percentages: of all cores together, and of the busiest core. Both lie between zero and
one hundred, which the type guarantees and the constructor checks.

* `CpuUsage.of?` accepts exactly the figures in range.
* `CpuUsage.single` makes a usage of one figure, clamped into the range.
-/
import HostWatch.Text.Numeral

namespace HostWatch

/-- A percentage outside of the range from zero to one hundred. -/
structure PercentFault where
  figure : String
  value : Int
deriving DecidableEq

/-- The text that tells a percentage out of range. -/
def PercentFault.message (fault : PercentFault) : String :=
  Text.faultText [fault.value] s!"{fault.figure}: invalid value {fault.value}: must be 0..100"

/-- A figure forced into the range from zero to one hundred. -/
def clampPercent (n : Int) : Int :=
  max 0 (min 100 n)

theorem clampPercent_nonneg (n : Int) : 0 ≤ clampPercent n := by
  unfold clampPercent
  omega

theorem clampPercent_le (n : Int) : clampPercent n ≤ 100 := by
  unfold clampPercent
  omega

theorem clampPercent_eq_self {n : Int} (nonneg : 0 ≤ n) (le : n ≤ 100) : clampPercent n = n := by
  unfold clampPercent
  omega

/-- CPU usage over a slice of time, in percent. -/
structure CpuUsage where
  average : Int
  busiest : Int
  average_nonneg : 0 ≤ average
  average_le : average ≤ 100
  busiest_nonneg : 0 ≤ busiest
  busiest_le : busiest ≤ 100
deriving DecidableEq

namespace CpuUsage

/-- The usage with the given figures; the first one out of range is refused. -/
def of? (average busiest : Int) : Except PercentFault CpuUsage :=
  if a : 0 ≤ average ∧ average ≤ 100 then
    if b : 0 ≤ busiest ∧ busiest ≤ 100 then .ok ⟨average, busiest, a.1, a.2, b.1, b.2⟩
    else .error ⟨"max_core_usage", busiest⟩
  else .error ⟨"avg_usage", average⟩

/-- The usage whose two figures are one value, clamped. -/
def single (n : Int) : CpuUsage :=
  ⟨clampPercent n, clampPercent n, clampPercent_nonneg n, clampPercent_le n,
    clampPercent_nonneg n, clampPercent_le n⟩

def idle : CpuUsage := single 0

instance : Inhabited CpuUsage := ⟨idle⟩

end CpuUsage

end HostWatch
