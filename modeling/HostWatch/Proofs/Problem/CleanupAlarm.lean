/-
**The alarm on memory that stays full.**

After a full garbage collection the resident memory is compared with the limit on the pool of the process, its own one
or else the physical memory of the host. The more of the limit is used, the higher is the percentage, so that the alarm
stays on while the memory grows. Only as far as the limit, though: memory beyond its limit has no limit, and no
percentage, and the alarm goes off.

* `Rules.flagged_cleanupFindingOf_iff`: the rule flags exactly when some pool stays as full as the threshold.
* `usedPercent?_of_isUnder`: how full a limit is, known up to the limit.
* `PoolFrom`, `Analyzer.report_cleanup_of_poolFrom`: **when the alarm is on**, by the limit and the resident memory.
* `Analyzer.cleanup_flagged_mono`: **within the limit the alarm stays on when the memory has grown.**
* `Analyzer.cleanup_flagged_of_crowded`: beyond the limit it goes off.
-/

import HostWatch.Proofs.Host.MemoryLimit
import HostWatch.Proofs.Problem.Guard

namespace HostWatch

open Stateful

/-! ### The rule -/

theorem Rules.fullPools_eq_nil_iff (pools : List MemoryPool) (usage : MemoryPool → Option MemoryUsage) (threshold : Int)
    (line : String → Int → String) : fullPools pools usage threshold line = [] ↔
      ∀ pool ∈ pools, ∀ percent ∈ fullness? pool (usage pool), ¬ threshold ≤ percent := by
  unfold fullPools
  rw [List.filterMap_eq_nil_iff]
  refine forall₂_congr fun pool _ => ?_
  cases fullness? pool (usage pool) with
  | none => simp
  | some percent => simp

/-- **The rule flags exactly when some pool stays as full as the threshold.** -/
theorem Rules.flagged_cleanupFindingOf_iff (config : Config) (pools : List MemoryPool) :
    (cleanupFindingOf config pools).flagged = true ↔
      ∃ pool ∈ pools, ∃ percent ∈ fullness? pool pool.afterCollection,
        config.integer .afterCollectionThreshold ≤ percent := by
  have full := fullPools_eq_nil_iff pools MemoryPool.afterCollection (config.integer .afterCollectionThreshold)
    fun name percent => s!"Pool [{name}] is {percent}% full after GC"
  unfold cleanupFindingOf
  dsimp only
  generalize fullPools pools MemoryPool.afterCollection _ _ = lines at full ⊢
  cases lines with
  | nil =>
    have unflagged : (if pools.isEmpty then noPools else ⟨false, "OK"⟩ : Finding).flagged = false := by
      split <;> rfl
    refine iff_of_false (Bool.eq_false_iff.1 unflagged) ?_
    rintro ⟨pool, member, percent, found, reached⟩
    exact full.1 rfl pool member percent found reached
  | cons line rest =>
    have some : ∃ pool ∈ pools, ∃ percent ∈ fullness? pool pool.afterCollection,
        config.integer .afterCollectionThreshold ≤ percent := by
      by_contra missing
      have none := full.2 fun pool member percent found reached => missing ⟨pool, member, percent, found, reached⟩
      cases none
    refine iff_of_true ?_ some
    obtain ⟨pool, member, -⟩ := some
    rw [if_neg (by simpa using List.ne_nil_of_mem member)]
    rfl

/-- The rule looks at nothing but the pools. -/
theorem Rules.run_cleanupFinding {config : Config} {sources : Sources} {machine : Machine} {pools : List MemoryPool}
    (answered : (sources.pools.run.run machine).1 = .ok pools) :
    ((cleanupFinding config sources).run.run machine).1 = .ok (cleanupFindingOf config pools) := by
  unfold cleanupFinding
  rw [run_bind_of_ok (Prod.ext answered rfl)]
  rfl

/-! ### The pool -/

/-- **How full a limit is**, known up to the limit. -/
theorem usedPercent?_of_isUnder {limit used : Int} (positive : 0 < limit) {usage : MemoryUsage}
    (isUnder : usage.IsUnder limit used) :
    usage.usedPercent? = if used ≤ limit then some (used * 100 / limit) else none := by
  unfold MemoryUsage.usedPercent? MemoryUsage.percentOfMax?
  rw [isUnder.used_eq, isUnder.max_eq]
  by_cases within : used ≤ limit
  · rw [if_pos within, if_pos within, if_neg (by omega : ¬ limit ≤ 0)]
  · rw [if_neg within, if_neg within]
    rfl

theorem fullness?_of_isUnder {pool : MemoryPool} {limit resident after : Int} (positive : 0 < limit)
    (isUnder : pool.IsUnder limit resident (some after)) :
    Rules.fullness? pool pool.afterCollection = if after ≤ limit then some (after * 100 / limit) else none := by
  obtain ⟨cleaned, told, cleanedUnder⟩ : ∃ cleaned, pool.afterCollection = some cleaned ∧ cleaned.IsUnder limit after := by
    have known := isUnder.afterCollection
    cases told : pool.afterCollection with
    | none =>
      rw [told] at known
      cases known
    | some cleaned =>
      rw [told] at known
      cases known with
      | some cleanedUnder => exact ⟨cleaned, rfl, cleanedUnder⟩
  unfold Rules.fullness?
  rw [isUnder.comparable_eq, if_pos (decide_eq_true positive), told]
  exact usedPercent?_of_isUnder positive cleanedUnder

/-- **What the pool of a machine is built from**: its limit, and the resident memory after the last full garbage
collection. The resident memory of the moment can be told, too. -/
structure PoolFrom (machine : Machine) (limit after : Int) : Prop where
  limit : (poolLimit.run.run machine).1 = .ok limit
  resident : ∃ resident, machine.host.resident? = some resident ∧ 0 ≤ resident
  after : ∃ collections, machine.collections = some collections ∧ collections.residentAfterFull = some after

theorem PoolFrom.exists_run_memoryPools {machine : Machine} {limit after : Int} (built : PoolFrom machine limit after)
    (positive : 0 < limit) (measured : 0 ≤ after) :
    ∃ pool, (memoryPools.run.run machine).1 = .ok [pool] ∧
      Rules.fullness? pool pool.afterCollection = if after ≤ limit then some (after * 100 / limit) else none := by
  obtain ⟨resident, shown, nonneg⟩ := built.resident
  obtain ⟨collections, watched, same⟩ := built.after
  have noted : machine.residentAfterFull? = some after := by
    rw [Machine.residentAfterFull?, watched, Option.bind_some, same]
  obtain ⟨pool, made, isUnder⟩ := exists_poolOf (by omega : -1 ≤ limit) nonneg
    fun other (is : other ∈ some after) => Option.some.inj is ▸ measured
  refine ⟨pool, ?_, fullness?_of_isUnder positive isUnder⟩
  rw [run_memoryPools built.limit shown, noted, made]
  rfl

/-! ### The alarm -/

namespace Analyzer

variable {analyzer : Analyzer} {machine later : Machine} {limit after : Int}

/-- **When the alarm is on**: up to the limit, and as full as the threshold. -/
theorem report_cleanup_of_poolFrom (own : analyzer.sources.pools = memoryPools) (positive : 0 < limit)
    (measured : 0 ≤ after) (built : PoolFrom machine limit after) (samples : List Sample) :
    ∃ report, ((analyzer.report samples .cleanup).run.run machine).1 = .ok report ∧
      (report.flagged = true ↔
        after ≤ limit ∧ analyzer.config.integer .afterCollectionThreshold ≤ after * 100 / limit) := by
  obtain ⟨pool, found, full⟩ := built.exists_run_memoryPools positive measured
  have answered : (analyzer.sources.pools.run.run machine).1 = .ok [pool] := own ▸ found
  have ends : ((analyzer.finding samples .cleanup).run.run machine).1 =
      .ok (Rules.cleanupFindingOf analyzer.config [pool]) := Rules.run_cleanupFinding answered
  obtain ⟨report, reported, -, flagged_eq, -⟩ := exists_report_of_finding ends rfl
  refine ⟨report, reported, ?_⟩
  rw [flagged_eq, Rules.flagged_cleanupFindingOf_iff]
  simp only [List.mem_singleton, exists_eq_left, full]
  by_cases within : after ≤ limit <;> simp [within]

/-- **Within the limit the alarm stays on when the memory has grown; beyond it the alarm is off.** -/
theorem cleanup_flagged_mono (own : analyzer.sources.pools = memoryPools) (positive : 0 < limit) {grown : Int}
    (measured : 0 ≤ after) (le : after ≤ grown) (built : PoolFrom machine limit after) (builtLater : PoolFrom later limit grown)
    (samples laterSamples : List Sample) :
    ∃ report laterReport, ((analyzer.report samples .cleanup).run.run machine).1 = .ok report ∧
      ((analyzer.report laterSamples .cleanup).run.run later).1 = .ok laterReport ∧
      (grown ≤ limit → report.flagged = true → laterReport.flagged = true) ∧
      (limit < grown → laterReport.flagged = false) := by
  obtain ⟨report, reported, flagged_iff⟩ := report_cleanup_of_poolFrom own positive measured built samples
  obtain ⟨laterReport, reportedLater, flaggedLater_iff⟩ :=
    report_cleanup_of_poolFrom own positive (Int.le_trans measured le) builtLater laterSamples
  refine ⟨report, laterReport, reported, reportedLater, fun within flagged => ?_, fun beyond => ?_⟩
  · have percent : after * 100 / limit ≤ grown * 100 / limit := Int.ediv_le_ediv positive (by omega)
    exact flaggedLater_iff.2 ⟨within, Int.le_trans (flagged_iff.1 flagged).2 percent⟩
  · rw [Bool.eq_false_iff]
    intro flagged
    have within := (flaggedLater_iff.1 flagged).1
    omega

/-- A host whose process may use a hundred bytes, and has so many left after a full collection. -/
def crowded (after : Int) : Machine :=
  { Machine.ofHost { Host.bare with addressLimit := some (.bytes 100), resident := some after } with
    collections := some { Collections.unwatched with residentAfterFull := some after, watching := true } }

/-- An analyzer that looks at the host itself. -/
def watcher : Analyzer := ⟨.default, .forSamples, .ofHost .counters, LockRegistry.empty⟩

theorem poolFrom_crowded {after : Int} (measured : 0 ≤ after) : PoolFrom (crowded after) 100 after :=
  ⟨rfl, ⟨after, rfl, measured⟩, _, rfl, rfl⟩

theorem cleanup_flagged_mono_crowded :
    watcher.sources.pools = memoryPools ∧ PoolFrom (crowded 90) 100 90 ∧ PoolFrom (crowded 95) 100 95 ∧
    ∃ report laterReport, ((watcher.report [] .cleanup).run.run (crowded 90)).1 = .ok report ∧
      ((watcher.report [] .cleanup).run.run (crowded 95)).1 = .ok laterReport ∧
      ((95 : Int) ≤ 100 → report.flagged = true → laterReport.flagged = true) ∧
      ((100 : Int) < 95 → laterReport.flagged = false) :=
  ⟨rfl, poolFrom_crowded (by decide), poolFrom_crowded (by decide),
    cleanup_flagged_mono rfl (by decide) (by decide) (by decide) (poolFrom_crowded (by decide))
      (poolFrom_crowded (by decide)) [] []⟩

/-- **The alarm goes off because the memory has grown beyond its limit.** -/
theorem cleanup_flagged_of_crowded :
    PoolFrom (crowded 90) 100 90 ∧ PoolFrom (crowded 110) 100 110 ∧
    (∃ report, ((watcher.report [] .cleanup).run.run (crowded 90)).1 = .ok report ∧ report.flagged = true) ∧
    ∃ report, ((watcher.report [] .cleanup).run.run (crowded 110)).1 = .ok report ∧ report.flagged = false :=
  ⟨poolFrom_crowded (by decide), poolFrom_crowded (by decide), ⟨_, rfl, rfl⟩, _, rfl, rfl⟩

end Analyzer

end HostWatch
