/-
**The percentage of a thread is exact.**

The CPU time used is divided by the time passed, the quotient is rounded to the nearest binary number, its fraction is
dropped, and a hundred stands for all above. Below `2 ^ 7` there are at least forty-six binary places. A quotient that
is not whole lies at least one part in its denominator below the next integer, and half the last place is shorter than
that as long as the denominator, ten thousand for each millisecond, is below `2 ^ 47`. From there on a quotient just
below a hundred is lifted onto it.

* `exactPercent`: the integer part of the quotient itself, a hundred at most.
* `percentBetween_eq`: the percentage that is told, by the integer part of the rounded quotient.
* `percentBetween_isExact`: **it is the exact one** up to ten billion milliseconds, so that it lies between zero and a
  hundred and does not fall when more CPU time was used.
* `percentBetween_eq_exactPercent_iff`: over which time all percentages are exact.
* `IsUsage.eq_exactPercent`: the usages in a table of threads are.
-/

import HostWatch.Proofs.Binary64.Order
import HostWatch.Proofs.Thread.Table

namespace HostWatch.CpuTable

/-- The CPU time used, in nanoseconds, in percent of the time passed, in milliseconds: the fraction is dropped, and a
hundred stands for all above. -/
def exactPercent (used elapsed : Int) : Int := min 100 (used / (elapsed * 10000))

/-- The least denominator at which half the last place below a hundred is no shorter than one part in it. -/
def coarse : Nat := Nat.pow 2 47

/-! ### Rounded quotients -/

section Quotient

open Binary64 (wholeOf)

variable {used elapsed : Nat}

/-- The percentage that is told when the quotient is within the binary format. -/
def roundedPercent (used elapsed : Nat) : Nat := min 100 (wholeOf used (elapsed * 10000))

theorem min_wholeOf_natCast (used elapsed : Nat) :
    min 100 (wholeOf used (elapsed * 10000) : Int) = roundedPercent used elapsed := by
  unfold roundedPercent
  omega

theorem exactPercent_natCast (used elapsed : Nat) :
    exactPercent used elapsed = (min 100 (used / (elapsed * 10000)) : Nat) := by
  have part : (used : Int) / (elapsed * 10000) = (used / (elapsed * 10000) : Nat) := rfl
  unfold exactPercent
  rw [part]
  omega

theorem truncate_share (positive : 0 < elapsed) {share : Binary64}
    (fits : Binary64.ofQuotient (100 * (used : Int)) (elapsed * nanosPerMilli) = .ok share) :
    share.truncate = .ok (wholeOf used (elapsed * 10000) : Int) := by
  have room : 0 < elapsed * 10000 := by omega
  have num : 100 * (used : Int) = (used * 100 : Nat) := by
    rw [Int.natCast_mul, Int.mul_comm]
    rfl
  have den : (elapsed : Int) * nanosPerMilli = (elapsed * 10000 * 100 : Nat) := by
    rw [Nat.mul_assoc, Int.natCast_mul]
    rfl
  rw [num, den] at fits
  rw [Binary64.truncate_of_ofQuotient (by omega) fits, Binary64.wholeOf_mul_right used room (by decide)]

theorem roundedPercent_le_roundedPercent {more : Nat} (positive : 0 < elapsed) (le : used ≤ more) :
    roundedPercent used elapsed ≤ roundedPercent more elapsed := by
  have room : 0 < elapsed * 10000 := by omega
  have whole := Binary64.wholeOf_le_wholeOf room room (Nat.mul_le_mul_right (elapsed * 10000) le)
  unfold roundedPercent
  omega

/-- **Rounding changes no percentage** while half the last place is shorter than one part in the denominator. -/
theorem roundedPercent_eq (positive : 0 < elapsed) (fine : elapsed * 10000 < coarse) :
    (roundedPercent used elapsed : Int) = exactPercent used elapsed := by
  have places : 7 + 46 = 53 := rfl
  unfold roundedPercent
  rw [Binary64.min_wholeOf places (by decide) (by omega) fine, exactPercent_natCast]

/-- From there on a quotient one part in the denominator below a hundred is lifted onto it. -/
theorem roundedPercent_lifted (reached : coarse ≤ elapsed * 10000) :
    roundedPercent (100 * (elapsed * 10000) - 1) elapsed = 100 := by
  have size : coarse = 140737488355328 := rfl
  -- of the two significands next to a tie below a hundred, that of a hundred is the even one
  have tie : wholeOf (100 * coarse - 1) coarse = 100 := by decide +kernel
  have le : (100 * coarse - 1) * (elapsed * 10000) ≤ (100 * (elapsed * 10000) - 1) * coarse := by
    rw [size] at reached ⊢
    omega
  have whole := Binary64.wholeOf_le_wholeOf (by decide) (by omega) le
  rw [tie] at whole
  exact Nat.min_eq_left whole

theorem exactPercent_lifted (positive : 0 < elapsed) :
    exactPercent (100 * (elapsed * 10000) - 1 : Nat) elapsed = 99 := by
  have whole : (100 * (elapsed * 10000) - 1) / (elapsed * 10000) = 99 := by
    rw [Nat.div_eq_iff (by omega)]
    omega
  rw [exactPercent_natCast, whole]
  rfl

end Quotient

/-! ### Percentages -/

section Percent

variable {previous current : ThreadItem} {previousTime time : Int}

/-- A usage that is known, by the CPU time used and the time passed. -/
structure Spent (previous : ThreadItem) (previousTime : Int) (current : ThreadItem) (time : Int)
    (used elapsed : Nat) : Prop where
  measured : 0 ≤ previous.cpuNanos
  used_eq : current.cpuNanos - previous.cpuNanos = used
  elapsed_eq : time - previousTime = elapsed
  positive : 0 < elapsed

theorem exists_spent (measured : 0 ≤ previous.cpuNanos) (gained : previous.cpuNanos ≤ current.cpuNanos)
    (later : previousTime < time) : ∃ used elapsed, Spent previous previousTime current time used elapsed := by
  obtain ⟨used, used_eq⟩ := Int.eq_ofNat_of_zero_le (by omega : 0 ≤ current.cpuNanos - previous.cpuNanos)
  obtain ⟨elapsed, elapsed_eq⟩ := Int.eq_ofNat_of_zero_le (by omega : 0 ≤ time - previousTime)
  exact ⟨used, elapsed, measured, used_eq, elapsed_eq, by omega⟩

variable {used elapsed : Nat}

/-- **The percentage that is told**, unless the quotient is beyond the binary format. -/
theorem percentBetween_eq (spent : Spent previous previousTime current time used elapsed) :
    percentBetween previous previousTime current time =
      (Binary64.ofQuotient (100 * (used : Int)) (elapsed * nanosPerMilli)).map fun _ =>
        some (roundedPercent used elapsed : Int) := by
  obtain ⟨measured, used_eq, elapsed_eq, positive⟩ := spent
  unfold percentBetween
  dsimp only
  rw [if_neg (by omega), used_eq, elapsed_eq]
  cases fits : Binary64.ofQuotient (100 * (used : Int)) (elapsed * nanosPerMilli) with
  | error fault => rfl
  | ok share =>
    show (share.truncate >>= fun percent => pure (some (min 100 percent))) = _
    rw [truncate_share positive fits, ← min_wholeOf_natCast]
    rfl

theorem exists_share {k : Nat} (small : k ≤ 1023) (lt : used < elapsed * 10000 * Nat.pow 2 k) :
    ∃ share, Binary64.ofQuotient (100 * (used : Int)) (elapsed * nanosPerMilli) = .ok share := by
  refine Binary64.exists_ofQuotient small ?_
  have num : (100 * (used : Int)).natAbs = 100 * used := by omega
  have den : ((elapsed : Int) * nanosPerMilli).natAbs = 100 * (elapsed * 10000) := by
    unfold nanosPerMilli
    omega
  rw [num, den, Nat.mul_assoc]
  exact Nat.mul_lt_mul_of_pos_left lt (by decide)

theorem Spent.told {k : Nat} (spent : Spent previous previousTime current time used elapsed) (small : k ≤ 1023)
    (lt : used < elapsed * 10000 * Nat.pow 2 k) :
    percentBetween previous previousTime current time = .ok (some (roundedPercent used elapsed : Int)) := by
  obtain ⟨share, fits⟩ := exists_share small lt
  rw [percentBetween_eq spent, fits]
  rfl

theorem Spent.eq_roundedPercent (spent : Spent previous previousTime current time used elapsed) {percent : Int}
    (told : percentBetween previous previousTime current time = .ok (some percent)) :
    percent = roundedPercent used elapsed := by
  rw [percentBetween_eq spent] at told
  obtain ⟨share, -, percent_eq⟩ := exists_of_map_eq_ok told
  exact (Option.some.inj percent_eq).symm

/-! ### Exact percentages -/

/-- Two captures of a thread, of which the CPU time was measured and did not go back, some time apart but no more than
ten billion milliseconds, and with a quotient well within the binary format. -/
structure WellMeasured (previous : ThreadItem) (previousTime : Int) (current : ThreadItem) (time : Int) : Prop where
  measured : 0 ≤ previous.cpuNanos
  gained : previous.cpuNanos ≤ current.cpuNanos
  later : previousTime < time
  soon : time - previousTime ≤ 10000000000
  few : current.cpuNanos - previous.cpuNanos < (time - previousTime) * 10000 * (Nat.pow 2 1000 : Nat)

/-- **A percentage is the exact one.** -/
structure IsExact (previous : ThreadItem) (previousTime : Int) (current : ThreadItem) (time percent : Int) : Prop where
  told : percentBetween previous previousTime current time = .ok (some percent)
  eq_exactPercent : percent = exactPercent (current.cpuNanos - previous.cpuNanos) (time - previousTime)
  nonneg : 0 ≤ percent
  le_hundred : percent ≤ 100
  /-- Where more CPU time was used, no less is told. -/
  mono : ∀ more, WellMeasured previous previousTime more time → current.cpuNanos ≤ more.cpuNanos →
    ∃ further, percentBetween previous previousTime more time = .ok (some further) ∧ percent ≤ further

theorem WellMeasured.exists_told (well : WellMeasured previous previousTime current time) :
    ∃ used elapsed, Spent previous previousTime current time used elapsed ∧ elapsed * 10000 < coarse ∧
      percentBetween previous previousTime current time = .ok (some (roundedPercent used elapsed : Int)) := by
  obtain ⟨used, elapsed, spent⟩ := exists_spent well.measured well.gained well.later
  have soon := well.soon
  have few := well.few
  rw [spent.elapsed_eq] at soon
  rw [spent.used_eq, spent.elapsed_eq] at few
  have size : coarse = 140737488355328 := rfl
  have lt : used < elapsed * 10000 * Nat.pow 2 1000 := Int.ofNat_lt.1 few
  exact ⟨used, elapsed, spent, by omega, spent.told (by decide) lt⟩

/-- **The percentage of a thread is the exact one**: a number between zero and a hundred, and no less where more CPU time
was used. -/
theorem percentBetween_isExact (well : WellMeasured previous previousTime current time) :
    ∃ percent, IsExact previous previousTime current time percent := by
  obtain ⟨used, elapsed, spent, fine, told⟩ := well.exists_told
  have le_hundred : roundedPercent used elapsed ≤ 100 := Nat.min_le_left 100 _
  refine ⟨roundedPercent used elapsed, told, ?_, by omega, by omega, fun more wellMore le => ?_⟩
  · rw [roundedPercent_eq spent.positive fine, spent.used_eq, spent.elapsed_eq]
  · obtain ⟨further, elapsed', spentMore, -, toldMore⟩ := wellMore.exists_told
    have used_eq := spent.used_eq
    have further_eq := spentMore.used_eq
    obtain rfl : elapsed = elapsed' := Int.ofNat.inj (spent.elapsed_eq.symm.trans spentMore.elapsed_eq)
    have larger := roundedPercent_le_roundedPercent spent.positive (by omega : used ≤ further)
    exact ⟨_, toldMore, Int.ofNat_le.2 larger⟩

/-- In ten billion milliseconds one nanosecond less than all of the time was used. -/
theorem percentBetween_isExact_idleNanosecond :
    WellMeasured (runner 7 (some 70) 5) 1000 (runner 7 (some 70) 10000000000000004) 10000001000 ∧
      IsExact (runner 7 (some 70) 5) 1000 (runner 7 (some 70) 10000000000000004) 10000001000 99 := by
  have well : WellMeasured (runner 7 (some 70) 5) 1000 (runner 7 (some 70) 10000000000000004) 10000001000 :=
    ⟨by decide, by decide, by decide, by decide, by decide +kernel⟩
  obtain ⟨percent, isExact⟩ := percentBetween_isExact well
  obtain rfl : percent = 99 := isExact.eq_exactPercent.trans (by decide)
  exact ⟨well, isExact⟩

/-- **All percentages over some time are exact if and only if it is short enough**, a hundred and sixty-two days. -/
theorem percentBetween_eq_exactPercent_iff (measured : 0 ≤ previous.cpuNanos) (later : previousTime < time) :
    (∀ current percent, previous.cpuNanos ≤ current.cpuNanos →
      percentBetween previous previousTime current time = .ok (some percent) →
      percent = exactPercent (current.cpuNanos - previous.cpuNanos) (time - previousTime)) ↔
      (time - previousTime) * 10000 < coarse := by
  constructor
  · intro exact
    by_contra reached
    obtain ⟨elapsed, elapsed_eq⟩ := Int.eq_ofNat_of_zero_le (by omega : 0 ≤ time - previousTime)
    rw [elapsed_eq] at reached exact
    have positive : 0 < elapsed := by omega
    generalize used_eq : 100 * (elapsed * 10000) - 1 = used
    have spent : Spent previous previousTime { previous with cpuNanos := previous.cpuNanos + used } time used elapsed :=
      ⟨measured, by dsimp only; omega, elapsed_eq, positive⟩
    have few : used < elapsed * 10000 * Nat.pow 2 7 := by
      have size : Nat.pow 2 7 = 128 := rfl
      rw [size]
      omega
    have told := exact _ _ (by dsimp only; omega) (spent.told (by decide) few)
    rw [spent.used_eq, ← used_eq, roundedPercent_lifted (by omega), exactPercent_lifted positive] at told
    cases told
  · intro fine current percent gained told
    obtain ⟨used, elapsed, spent⟩ := exists_spent measured gained later
    rw [spent.elapsed_eq] at fine
    rw [spent.eq_roundedPercent told, roundedPercent_eq spent.positive (by omega), spent.used_eq, spent.elapsed_eq]

end Percent

/-! ### Tables -/

/-- **A usage that is known in a table is the exact percentage**, as long as the snapshots are not too far apart. -/
theorem IsUsage.eq_exactPercent {before now : ThreadSnapshot} {previous current : ThreadItem} {percent : Option Int}
    (usage : IsUsage (some before) now current percent) (comparable : Comparable before now previous current)
    (near : (now.takenAt - before.takenAt) * 10000 < coarse) :
    percent = some (exactPercent (current.cpuNanos - previous.cpuNanos) (now.takenAt - before.takenAt)) := by
  obtain ⟨share, whole, fits, truncated, rfl⟩ := usage.known before rfl previous comparable
  obtain ⟨used, elapsed, spent⟩ := exists_spent comparable.previous_measured comparable.gained comparable.later
  unfold shareBetween at fits
  rw [spent.used_eq, spent.elapsed_eq] at fits
  obtain rfl := Except.ok.inj (truncated.symm.trans (truncate_share spent.positive fits))
  rw [spent.elapsed_eq] at near
  rw [spent.used_eq, spent.elapsed_eq, ← roundedPercent_eq spent.positive (by omega), min_wholeOf_natCast]

end HostWatch.CpuTable
