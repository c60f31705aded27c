/-
**The usage of all cores lies between those of the cores.**

Where no counter goes back and the counters of all cores together are the sums of those of the cores, the share of
time that all cores were busy is a mean of the shares of the cores, weighted by the time that passed for each of
them. Percentages are rounded up, which keeps their order: so the average is no greater than the usage of the busiest
core and no less than the least usage of a core on which time passed.

* `CpuTicks.usage_of_grows`: **a usage is the share of busy time, rounded up.**
* `CpuTicks.excess`, `busyShare_le_iff`: by how much busy time exceeds a share, and what this says of the rounded one.
* `CpuTicks.excess_sum`: **it adds up over the cores.**
* `CpuLines.balances_usage`: **the usage between two captures** whose counters add up.
-/

import HostWatch.Proofs.Host.CoreUsages
import Mathlib.Algebra.Order.BigOperators.Group.List
import Mathlib.Data.Int.LeastGreatest
import Mathlib.Data.Rat.Floor
import Mathlib.Tactic.Linarith
import Mathlib.Tactic.Ring

namespace HostWatch

namespace CpuTicks

/-! ### One pair of counters -/

/-- The ticks that were not idle. -/
def busy (ticks : CpuTicks) : Int := ticks.user + ticks.nice + ticks.system

/-- No counter went back. -/
def Grows (earlier later : CpuTicks) : Prop :=
  earlier.user ≤ later.user ∧ earlier.nice ≤ later.nice ∧ earlier.system ≤ later.system ∧ earlier.idle ≤ later.idle

instance (earlier later : CpuTicks) : Decidable (Grows earlier later) :=
  inferInstanceAs (Decidable (_ ∧ _))

/-- The share of the time that was busy, in percent and rounded up; there is none where no time passed. -/
def busyShare (earlier later : CpuTicks) : Int :=
  if later.total = earlier.total then 0
  else ⌈((100 * (later.busy - earlier.busy) : Int) : ℚ) / ((later.total - earlier.total : Int) : ℚ)⌉

/-- By how much a hundred times the busy time exceeds a share of the time that passed. -/
def excess (share : Int) (earlier later : CpuTicks) : Int :=
  100 * (later.busy - earlier.busy) - share * (later.total - earlier.total)

variable {earlier later : CpuTicks}

/-- The time that passed was busy or idle. -/
theorem Grows.passed (grown : Grows earlier later) : 0 ≤ later.busy - earlier.busy ∧ 0 ≤ later.idle - earlier.idle ∧
    later.total - earlier.total = (later.busy - earlier.busy) + (later.idle - earlier.idle) := by
  obtain ⟨user, nice, system, idle⟩ := grown
  unfold total busy
  omega

theorem ceil_div_eq {n d z : Int} (positive : 0 < d) (above : n ≤ z * d) (below : (z - 1) * d < n) :
    ⌈(n : ℚ) / (d : ℚ)⌉ = z := by
  have positive' : (0 : ℚ) < d := by exact_mod_cast positive
  rw [Int.ceil_eq_iff, lt_div_iff₀ positive', div_le_iff₀ positive']
  exact ⟨by exact_mod_cast below, by exact_mod_cast above⟩

/-- What the idle share, rounded down, leaves of a hundred percent is the busy share, rounded up. -/
theorem sub_clampPercent {busy idled : Int} (nonneg : 0 ≤ busy) (nonneg' : 0 ≤ idled) (positive : 0 < busy + idled) :
    100 - clampPercent (100 * idled / (busy + idled)) = ⌈((100 * busy : Int) : ℚ) / ((busy + idled : Int) : ℚ)⌉ := by
  have share_nonneg : 0 ≤ 100 * idled / (busy + idled) := Int.ediv_nonneg (by omega) (by omega)
  have share_le : 100 * idled / (busy + idled) ≤ 100 := Int.ediv_le_of_le_mul positive (by omega)
  have lower : 100 * idled / (busy + idled) * (busy + idled) ≤ 100 * idled := Int.ediv_mul_le _ (by omega)
  have upper : 100 * idled < (100 * idled / (busy + idled) + 1) * (busy + idled) :=
    Int.lt_ediv_add_one_mul_self _ positive
  rw [clampPercent_eq_self share_nonneg share_le]
  refine (ceil_div_eq positive ?_ ?_).symm <;> linarith

/-- **A usage is the share of busy time, rounded up.** -/
theorem usage_of_grows (grown : Grows earlier later) : usage earlier later = .ok (busyShare earlier later) := by
  obtain ⟨nonneg, nonneg', passed⟩ := grown.passed
  have forwards : ¬ (later.total - earlier.total < 0 ∨ later.idle < earlier.idle) := by omega
  unfold usage busyShare
  dsimp only
  rw [if_neg forwards]
  by_cases still : later.total = earlier.total
  · rw [if_pos still, if_pos (by omega)]
  · rw [if_neg still, if_neg (by omega), passed, sub_clampPercent nonneg nonneg' (by omega)]

theorem busyShare_nonneg (grown : Grows earlier later) : 0 ≤ busyShare earlier later :=
  (usage_range (usage_of_grows grown)).1

/-- Where no time passed, nothing exceeds a share. -/
theorem excess_of_still (grown : Grows earlier later) (still : later.total = earlier.total) (share : Int) :
    excess share earlier later = 0 := by
  obtain ⟨nonneg, nonneg', passed⟩ := grown.passed
  have unused : later.busy - earlier.busy = 0 := by omega
  unfold excess
  rw [unused, still, Int.sub_self, Int.mul_zero, Int.mul_zero, Int.sub_self]

/-- **A rounded share is within a percentage exactly when the busy time does not exceed it.** -/
theorem busyShare_le_iff (grown : Grows earlier later) {share : Int} (nonneg : 0 ≤ share) :
    busyShare earlier later ≤ share ↔ excess share earlier later ≤ 0 := by
  by_cases still : later.total = earlier.total
  · rw [excess_of_still grown still, busyShare, if_pos still]
    exact iff_of_true nonneg (Int.le_refl 0)
  · obtain ⟨nonneg, nonneg', passed⟩ := grown.passed
    have positive : 0 < later.total - earlier.total := by omega
    have positive' : (0 : ℚ) < (later.total - earlier.total : Int) := by exact_mod_cast positive
    rw [busyShare, if_neg still, Int.ceil_le, div_le_iff₀ positive', excess, sub_nonpos]
    exact_mod_cast Iff.rfl

/-! ### All cores together -/

/-- The counters of all cores together, each of them added up. -/
def sum (cores : List CpuTicks) : CpuTicks :=
  ⟨(cores.map user).sum, (cores.map nice).sum, (cores.map system).sum, (cores.map idle).sum⟩

variable {before after : List CpuTicks}

theorem grows_sum (grown : List.Forall₂ Grows before after) : Grows (sum before) (sum after) := by
  induction grown with
  | nil => decide
  | cons head _ ih =>
    obtain ⟨user, nice, system, idle⟩ := head
    obtain ⟨users, nices, systems, idles⟩ := ih
    exact ⟨Int.add_le_add user users, Int.add_le_add nice nices, Int.add_le_add system systems,
      Int.add_le_add idle idles⟩

/-- **What exceeds a share adds up over the cores.** -/
theorem excess_sum (share : Int) (asMany : before.length = after.length) :
    excess share (sum before) (sum after) = ((before.zip after).map fun pair => excess share pair.1 pair.2).sum := by
  induction before generalizing after with
  | nil =>
    obtain rfl := List.length_eq_zero_iff.1 asMany.symm
    show 100 * ((0 : Int) - 0) - share * (0 - 0) = 0
    rw [Int.sub_self, Int.mul_zero, Int.mul_zero, Int.sub_self]
  | cons earlier before ih =>
    obtain ⟨later, after, rfl⟩ := List.exists_cons_of_length_eq_add_one asMany.symm
    rw [List.zip_cons_cons, List.map_cons, List.sum_cons, ← ih (Nat.succ.inj asMany)]
    simp only [excess, total, busy, sum, List.map_cons, List.sum_cons]
    ring

theorem grows_of_mem_zip (grown : List.Forall₂ Grows before after) :
    ∀ pair ∈ before.zip after, Grows pair.1 pair.2 := fun _ => List.forall₂_zip grown

/-- **The mean is no greater than all cores allow.** -/
theorem busyShare_sum_le (grown : List.Forall₂ Grows before after) {share : Int} (nonneg : 0 ≤ share)
    (within : ∀ pair ∈ before.zip after, busyShare pair.1 pair.2 ≤ share) :
    busyShare (sum before) (sum after) ≤ share := by
  rw [busyShare_le_iff (grows_sum grown) nonneg, excess_sum share grown.length_eq]
  refine (List.sum_le_card_nsmul _ 0 fun n member => ?_).trans_eq (nsmul_zero _)
  obtain ⟨pair, paired, rfl⟩ := List.mem_map.1 member
  exact (busyShare_le_iff (grows_of_mem_zip grown pair paired) nonneg).1 (within pair paired)

/-- **Some core on which time passed is no busier than the mean.** -/
theorem exists_busyShare_le_sum (grown : List.Forall₂ Grows before after)
    (moved : ∃ pair ∈ before.zip after, pair.2.total ≠ pair.1.total) :
    ∃ pair ∈ before.zip after, pair.2.total ≠ pair.1.total ∧
      busyShare pair.1 pair.2 ≤ busyShare (sum before) (sum after) := by
  have nonneg := busyShare_nonneg (grows_sum grown)
  by_contra none
  have busier {pair : CpuTicks × CpuTicks} (member : pair ∈ before.zip after)
      (moves : pair.2.total ≠ pair.1.total) : 0 < excess (busyShare (sum before) (sum after)) pair.1 pair.2 := by
    rw [← not_le, ← busyShare_le_iff (grows_of_mem_zip grown pair member) nonneg]
    exact fun le => none ⟨pair, member, moves, le⟩
  have noneBelow : ∀ pair ∈ before.zip after, 0 ≤ excess (busyShare (sum before) (sum after)) pair.1 pair.2 := by
    intro pair member
    by_cases still : pair.2.total = pair.1.total
    · exact (excess_of_still (grows_of_mem_zip grown pair member) still _).ge
    · exact (busier member still).le
  have someAbove : ∃ pair ∈ before.zip after, 0 < excess (busyShare (sum before) (sum after)) pair.1 pair.2 := by
    obtain ⟨pair, member, moves⟩ := moved
    exact ⟨pair, member, busier member moves⟩
  have above := List.sum_lt_sum (fun _ => 0) _ noneBelow someAbove
  rw [List.map_const', List.sum_replicate, nsmul_zero, ← excess_sum _ grown.length_eq] at above
  exact absurd ((busyShare_le_iff (grows_sum grown) nonneg).1 (le_refl _)) (not_le.2 above)

end CpuTicks

/-! ### Whole captures -/

namespace CpuLines

/-- The usages of the cores on which time passed. -/
def movedShares (earlier later : CpuLines) : Set Int :=
  {share | ∃ pair ∈ comparedCores earlier later, pair.2.total ≠ pair.1.total ∧ CpuTicks.usage pair.1 pair.2 = .ok share}

/-- The counters of all cores together are the sums of those of the cores. -/
def AddsUp (lines : CpuLines) : Prop := lines.overall = CpuTicks.sum lines.cores

instance (lines : CpuLines) : Decidable lines.AddsUp := inferInstanceAs (Decidable (_ = _))

variable {earlier later : CpuLines}

/-- **A usage between the usages of the cores.** -/
structure Balances (earlier later : CpuLines) (used : CpuUsage) : Prop where
  /-- The average is the share of time that all cores together were busy, rounded up. -/
  average_eq : used.average = CpuTicks.busyShare earlier.overall later.overall
  /-- The busiest core has the greatest usage of a core: that of all cores never takes its place. -/
  busiest : IsGreatest (coreShares earlier later) used.busiest
  /-- The least usage of a core on which time passed is no greater than the average. -/
  least_le : (∃ pair ∈ comparedCores earlier later, pair.2.total ≠ pair.1.total) →
    ∃ least, IsLeast (movedShares earlier later) least ∧ least ≤ used.average

theorem comparedCores_of_grows (grown : List.Forall₂ CpuTicks.Grows earlier.cores later.cores) :
    comparedCores earlier later = earlier.cores.zip later.cores :=
  if_pos grown.length_eq.symm

/-- The usage of a core is its share of busy time, rounded up. -/
theorem usage_of_mem_comparedCores (grown : List.Forall₂ CpuTicks.Grows earlier.cores later.cores)
    {pair : CpuTicks × CpuTicks} (member : pair ∈ comparedCores earlier later) :
    CpuTicks.usage pair.1 pair.2 = .ok (CpuTicks.busyShare pair.1 pair.2) := by
  rw [comparedCores_of_grows grown] at member
  exact CpuTicks.usage_of_grows (CpuTicks.grows_of_mem_zip grown pair member)

theorem range_of_mem_coreShares {share : Int} (member : share ∈ coreShares earlier later) :
    0 ≤ share ∧ share ≤ 100 := by
  obtain ⟨pair, -, computed⟩ := member
  exact CpuTicks.usage_range computed

/-- Where there are cores, one of them has the greatest usage. -/
theorem exists_isGreatest_coreShares (grown : List.Forall₂ CpuTicks.Grows earlier.cores later.cores)
    (cored : earlier.cores ≠ []) : ∃ greatest, IsGreatest (coreShares earlier later) greatest := by
  have compared : comparedCores earlier later ≠ [] := by
    rw [comparedCores_of_grows grown, ← List.length_pos_iff, List.length_zip, ← grown.length_eq, Nat.min_self]
    exact List.length_pos_iff.2 cored
  obtain ⟨pair, member⟩ := List.exists_mem_of_ne_nil _ compared
  exact Int.exists_greatest_of_bdd ⟨100, fun _ member => (range_of_mem_coreShares member).2⟩
    ⟨_, pair, member, usage_of_mem_comparedCores grown member⟩

/-- Of the cores on which time passed one has the least usage. -/
theorem exists_isLeast_movedShares {share : Int} (member : share ∈ movedShares earlier later) :
    ∃ least, IsLeast (movedShares earlier later) least := by
  refine Int.exists_least_of_bdd ⟨0, ?_⟩ ⟨share, member⟩
  rintro share ⟨pair, -, -, computed⟩
  exact (CpuTicks.usage_range computed).1

/-- **The usage of all cores lies between those of the cores.** -/
theorem balances_usage (addsUp : earlier.AddsUp) (addsUp' : later.AddsUp)
    (grown : List.Forall₂ CpuTicks.Grows earlier.cores later.cores) (cored : earlier.cores ≠ []) :
    ∃ used, usage earlier later = .ok used ∧ Balances earlier later used := by
  have compared := comparedCores_of_grows grown
  have overallComputed : CpuTicks.usage earlier.overall later.overall =
      .ok (CpuTicks.busyShare earlier.overall later.overall) := by
    rw [addsUp, addsUp']
    exact CpuTicks.usage_of_grows (CpuTicks.grows_sum grown)
  obtain ⟨used, computed⟩ := exists_usage_iff.2
    ⟨⟨_, overallComputed⟩, fun _ member => ⟨_, usage_of_mem_comparedCores grown member⟩⟩
  obtain ⟨average, -, busiest⟩ := usage_eq_ok_iff.1 computed
  have average_eq : used.average = CpuTicks.busyShare earlier.overall later.overall :=
    Except.ok.inj (average.symm.trans overallComputed)
  have average_eq' : used.average = CpuTicks.busyShare (CpuTicks.sum earlier.cores) (CpuTicks.sum later.cores) := by
    rw [average_eq, addsUp, addsUp']
  refine ⟨used, computed, average_eq, ?_, ?_⟩
  · obtain ⟨greatest, attained, bounds⟩ := exists_isGreatest_coreShares grown cored
    have average_le : used.average ≤ greatest := by
      rw [average_eq']
      refine CpuTicks.busyShare_sum_le grown (range_of_mem_coreShares attained).1 fun pair member => ?_
      rw [← compared] at member
      exact bounds ⟨pair, member, usage_of_mem_comparedCores grown member⟩
    have same : used.busiest = greatest :=
      busiest.unique ⟨.inr attained, Set.forall_mem_insert.2 ⟨average_le, bounds⟩⟩
    rw [same]
    exact ⟨attained, bounds⟩
  · intro moved
    rw [compared] at moved
    obtain ⟨pair, member, moves, le⟩ := CpuTicks.exists_busyShare_le_sum grown moved
    rw [← compared] at member
    have share : CpuTicks.busyShare pair.1 pair.2 ∈ movedShares earlier later :=
      ⟨pair, member, moves, usage_of_mem_comparedCores grown member⟩
    obtain ⟨least, attained, bounds⟩ := exists_isLeast_movedShares share
    exact ⟨least, ⟨attained, bounds⟩, (bounds share).trans (le.trans average_eq'.ge)⟩

/-- Two captures of a host with four cores: a busy one, one that was half idle, one that was idle and one on which no
time passed. -/
def uneven : CpuLines × CpuLines :=
  (⟨⟨157, 0, 150, 459⟩, [⟨50, 0, 50, 50⟩, ⟨50, 0, 50, 50⟩, ⟨50, 0, 50, 350⟩, ⟨7, 0, 0, 9⟩]⟩,
    ⟨⟨207, 0, 250, 609⟩, [⟨100, 0, 100, 50⟩, ⟨50, 0, 100, 100⟩, ⟨50, 0, 50, 450⟩, ⟨7, 0, 0, 9⟩]⟩)

theorem balances_usage_uneven : uneven.1.AddsUp ∧ uneven.2.AddsUp ∧
    List.Forall₂ CpuTicks.Grows uneven.1.cores uneven.2.cores ∧ uneven.1.cores ≠ [] ∧
      ∃ used, usage uneven.1 uneven.2 = .ok used ∧ Balances uneven.1 uneven.2 used := by
  have grown : List.Forall₂ CpuTicks.Grows uneven.1.cores uneven.2.cores := by
    decide
  have addsUp : uneven.1.AddsUp ∧ uneven.2.AddsUp := by decide
  exact ⟨addsUp.1, addsUp.2, grown, by decide, balances_usage addsUp.1 addsUp.2 grown (by decide)⟩

end CpuLines

end HostWatch
