/-
**Two measures of the usage of a host that agree.**

The file of Linux and the counters of Windows tell the same four times. The first measure divides exactly and
rounds down; the second one divides in the binary format and drops the fraction. Up to a hundred percent the
rounded quotient has the integer part of the exact one, since the times that passed are short; beyond that
both shares are clamped.

* `CpuTicks.Near`: the differences within which a quotient is told apart from the next percent.
* `CpuTicks.agree_percent`: **the shares of one pair of captures**, or the refusals, agree.
* `CpuLines.agree_usage`: **so do the usages of whole captures**, with as many cores as there are.
-/

import HostWatch.Host.CpuMeter
import HostWatch.Proofs.Binary64.Order

namespace HostWatch

/-! ### Outcomes that agree -/

section Agree

variable {α β : Type}

/-- Two computations have the same value, or both refuse theirs as wrong. -/
inductive Agree : Except Failure α → Except Failure α → Prop
  | value (a : α) : Agree (.ok a) (.ok a)
  | refusal {one other : Failure} (refuses : one.kind = .wrongValue) (refusesToo : other.kind = .wrongValue) :
      Agree (.error one) (.error other)

theorem Agree.bind {one other : Except Failure α} {first second : α → Except Failure β}
    (agree : Agree one other) (agreeThen : ∀ a, Agree (first a) (second a)) :
    Agree (one >>= first) (other >>= second) := by
  cases agree with
  | value a => exact agreeThen a
  | refusal refuses refusesToo => exact .refusal refuses refusesToo

theorem agree_mapM {γ : Type} {first second : γ → Except Failure α} {items : List γ}
    (agree : ∀ item ∈ items, Agree (first item) (second item)) : Agree (items.mapM first) (items.mapM second) := by
  induction items with
  | nil => exact .value []
  | cons item items ih =>
    rw [List.mapM_cons, List.mapM_cons]
    have head := agree item List.mem_cons_self
    have rest := ih fun other member => agree other (List.mem_cons_of_mem item member)
    exact head.bind fun a => rest.bind fun others => .value (a :: others)

end Agree

/-! ### One pair of captures -/

namespace CpuTicks

/-- The times as the counters of Windows tell them. -/
def times (ticks : CpuTicks) : CpuTimes :=
  [("user", .int ticks.user), ("nice", .int ticks.nice), ("system", .int ticks.system),
    (CpuCounters.idleName, .int ticks.idle)]

/-- Whether all times together and the idle ones differ by less than `2 ^ 46`. -/
def Near (earlier later : CpuTicks) : Prop :=
  (later.total - earlier.total).natAbs < Nat.pow 2 46 ∧ (later.idle - earlier.idle).natAbs < Nat.pow 2 46

instance (earlier later : CpuTicks) : Decidable (Near earlier later) :=
  inferInstanceAs (Decidable (_ ∧ _))

theorem total_times (ticks : CpuTicks) : CpuCounters.total ticks.times = .ok (.int ticks.total) := by
  show Except.ok (Number.int (0 + ticks.user + ticks.nice + ticks.system + ticks.idle)) = _
  rw [Int.zero_add]
  rfl

theorem idle_times (ticks : CpuTicks) : CpuCounters.idle ticks.times = .ok (.int ticks.idle) := rfl

/-- A share of the time without work, in percent, as the counters of Windows tell it. -/
def roundedShare (idled passed : Int) : Except ArithmeticFault Int := do
  let quotient ← Binary64.ofQuotient (idled * 100) passed
  quotient.truncate

theorem percent_times (earlier later : CpuTicks) :
    CpuCounters.percent earlier.times later.times =
      if later.total - earlier.total < 0 ∨ later.idle < earlier.idle then
        .error (.doesNotPrecede "m1" (CpuCounters.timesText earlier.times) (CpuCounters.timesText later.times)
          (CpuCounters.integers earlier.times ++ CpuCounters.integers later.times))
      else if later.total - earlier.total = 0 then .ok 0
      else do
        let share ← (roundedShare (later.idle - earlier.idle) (later.total - earlier.total)).mapError
          Failure.arithmetic
        return 100 - clampPercent share := by
  unfold CpuCounters.percent
  rw [total_times, total_times, idle_times, idle_times]
  have backwards : ((Number.int (later.total - earlier.total)).isNegative ||
      (Number.int (later.idle - earlier.idle)).isNegative) = true ↔
      later.total - earlier.total < 0 ∨ later.idle < earlier.idle := by
    simp only [Number.isNegative, Bool.or_eq_true, decide_eq_true_eq]
    omega
  have still : (Number.int (later.total - earlier.total)).isZero = true ↔ later.total - earlier.total = 0 := by
    simp only [Number.isZero, decide_eq_true_eq]
  exact ite_congr (propext backwards) (fun _ => rfl) fun _ => ite_congr (propext still) (fun _ => rfl) fun _ => rfl

theorem clampPercent_congr {m n : Nat} (same : min 100 m = min 100 n) :
    clampPercent (m : Int) = clampPercent (n : Int) := by
  unfold clampPercent
  omega

/-- **Within a hundred percent rounding changes no share**; beyond that the shares are clamped alike. -/
theorem clampPercent_roundedShare {idled passed : Nat} (idledFew : idled < Nat.pow 2 46)
    (passedFew : passed < Nat.pow 2 46) (positive : 0 < passed) :
    ∃ share, roundedShare idled passed = .ok share ∧
      clampPercent share = clampPercent (100 * (idled : Int) / passed) := by
  have exact : (100 * (idled : Int) / passed) = ((idled * 100 / passed : Nat) : Int) := by
    rw [Int.mul_comm]
    rfl
  have hundredfold : ((idled * 100 : Nat) : Int) = idled * 100 := rfl
  have places : 7 + 46 = 53 := rfl
  have capped : min 100 (Binary64.wholeOf (idled * 100) passed) = min 100 (idled * 100 / passed) :=
    Binary64.min_wholeOf places (by decide) positive (Nat.lt_of_lt_of_le passedFew (by decide))
  have fits : idled * 100 < passed * Nat.pow 2 53 := by
    have room : Nat.pow 2 53 ≤ passed * Nat.pow 2 53 := Nat.le_mul_of_pos_left _ positive
    have power : Nat.pow 2 53 = 128 * Nat.pow 2 46 := rfl
    omega
  obtain ⟨quotient, divides⟩ :=
    Binary64.exists_ofQuotient (a := (idled * 100 : Nat)) (b := passed) (k := 53) (by decide) fits
  refine ⟨Binary64.wholeOf (idled * 100) passed, ?_, ?_⟩
  · unfold roundedShare
    rw [← hundredfold, divides]
    exact Binary64.truncate_of_ofQuotient positive divides
  · rw [exact]
    exact clampPercent_congr capped

/-- **The shares of one pair of captures agree**, or both pairs are refused. -/
theorem agree_percent {earlier later : CpuTicks} (near : Near earlier later) :
    Agree (CpuCounters.percent earlier.times later.times) (usage earlier later) := by
  rw [percent_times]
  unfold usage
  dsimp only
  by_cases backwards : later.total - earlier.total < 0 ∨ later.idle < earlier.idle
  · rw [if_pos backwards, if_pos backwards]
    exact .refusal rfl rfl
  · rw [if_neg backwards, if_neg backwards]
    by_cases still : later.total - earlier.total = 0
    · rw [if_pos still, if_pos still]
      exact .value 0
    · rw [if_neg still, if_neg still]
      obtain ⟨passedFew, idledFew⟩ := near
      obtain ⟨passed, passed_eq⟩ := Int.eq_ofNat_of_zero_le (by omega : 0 ≤ later.total - earlier.total)
      obtain ⟨idled, idled_eq⟩ := Int.eq_ofNat_of_zero_le (by omega : 0 ≤ later.idle - earlier.idle)
      rw [passed_eq, Int.natAbs_natCast] at passedFew
      rw [idled_eq, Int.natAbs_natCast] at idledFew
      rw [passed_eq] at still ⊢
      rw [idled_eq]
      obtain ⟨share, divides, clamped⟩ :=
        clampPercent_roundedShare idledFew passedFew (Nat.pos_of_ne_zero (by omega))
      rw [divides, ← clamped]
      exact .value _

end CpuTicks

/-! ### Whole captures -/

namespace CpuLines

/-- A capture as the counters of Windows tell it. -/
def counters (lines : CpuLines) : CpuCounters := ⟨lines.overall.times, lines.cores.map CpuTicks.times⟩

/-- The cores of two captures that are compared: all of them, when there are as many in both. -/
def comparedCores (earlier later : CpuLines) : List (CpuTicks × CpuTicks) :=
  if later.cores.length = earlier.cores.length then earlier.cores.zip later.cores else []

/-- Whether the times differ little, those of all cores together and those of each pair that is compared. -/
def Near (earlier later : CpuLines) : Prop :=
  earlier.overall.Near later.overall ∧ ∀ pair ∈ comparedCores earlier later, pair.1.Near pair.2

instance (earlier later : CpuLines) : Decidable (Near earlier later) :=
  inferInstanceAs (Decidable (_ ∧ _))

theorem agree_combineUsages (overall : Int) (cores : List Int) :
    Agree (combineUsages overall cores) (combineUsages overall cores) := by
  unfold combineUsages
  cases CpuUsage.of? overall (cores.foldl max overall) with
  | ok usage => exact .value usage
  | error fault => exact .refusal rfl rfl

/-- The usages of the cores that are compared agree. -/
theorem agree_cores {earlier later : CpuLines} (near : Near earlier later)
    (asMany : later.cores.length = earlier.cores.length) :
    Agree
      ((earlier.counters.cores.zip later.counters.cores).mapM fun (e, l) => CpuCounters.percent e l)
      ((earlier.cores.zip later.cores).mapM fun (e, l) => CpuTicks.usage e l) := by
  obtain ⟨-, nearCores⟩ := near
  unfold comparedCores at nearCores
  rw [if_pos asMany] at nearCores
  unfold counters
  rw [List.zip_map, List.mapM_map]
  exact agree_mapM fun pair member => CpuTicks.agree_percent (nearCores pair member)

/-- **The two measures of the usage of a host agree**: they show the same usage, or both refuse the captures. -/
theorem agree_usage {earlier later : CpuLines} (near : Near earlier later) :
    Agree (CpuCounters.usage earlier.counters later.counters) (usage earlier later) := by
  unfold CpuCounters.usage usage
  refine (CpuTicks.agree_percent near.1).bind fun overall => ?_
  dsimp only
  have counted : (later.counters.cores.length = earlier.counters.cores.length) =
      (later.cores.length = earlier.cores.length) := by
    simp only [counters, List.length_map]
  by_cases asMany : later.cores.length = earlier.cores.length
  · rw [if_pos (counted ▸ asMany), if_pos asMany]
    exact (agree_cores near asMany).bind fun cores => agree_combineUsages overall cores
  · rw [if_neg (counted ▸ asMany), if_neg asMany]
    exact agree_combineUsages overall []

/-- Two captures of a host with two cores, the time without work of the second core having outrun all of its
time. -/
def outrun : CpuLines × CpuLines :=
  (⟨⟨1000, 20, 300, 9000⟩, [⟨500, 10, 150, 4500⟩, ⟨500, 10, 150, 4500⟩]⟩,
    ⟨⟨1061, 20, 317, 9229⟩, [⟨564, 10, 167, 4598⟩, ⟨497, 10, 150, 4631⟩]⟩)

theorem agree_usage_outrun :
    Near outrun.1 outrun.2 ∧ (usage outrun.1 outrun.2).toOption.map CpuUsage.busiest = some 46 ∧
      Agree (CpuCounters.usage outrun.1.counters outrun.2.counters) (usage outrun.1 outrun.2) :=
  ⟨by decide, by decide, agree_usage (by decide)⟩

end CpuLines

end HostWatch
