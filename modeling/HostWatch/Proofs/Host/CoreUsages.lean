/-
**The usage between two captures of all cores.**

The usage of all cores together is the average. The busiest core has the greatest of the average and the usages of
the cores that are compared. Each of these figures is a percentage, so that nothing but a pair of counters that went
back keeps a usage from being computed.

* `CpuTicks.usage_range`: the usage of one pair of counters is a percentage.
* `CpuLines.usage_eq_ok_iff`: **the usage between two captures**, and `CpuLines.exists_usage_iff`: when there is one.
-/

import HostWatch.Proofs.Host.CpuAgreement
import HostWatch.Proofs.Host.Meters

namespace HostWatch

/-- The usage of one pair of counters is a percentage. -/
theorem CpuTicks.usage_range {earlier later : CpuTicks} {share : Int} (computed : usage earlier later = .ok share) :
    0 ≤ share ∧ share ≤ 100 := by
  unfold usage at computed
  dsimp only at computed
  split_ifs at computed
  · obtain rfl := Except.ok.inj computed
    decide
  · obtain rfl := Except.ok.inj computed
    have bounds := clampPercent_nonneg (100 * (later.idle - earlier.idle) / (later.total - earlier.total))
    have bounds' := clampPercent_le (100 * (later.idle - earlier.idle) / (later.total - earlier.total))
    omega

/-! ### Usages with given figures -/

theorem CpuUsage.eq_of_figures {one other : CpuUsage} (average : one.average = other.average)
    (busiest : one.busiest = other.busiest) : one = other := by
  cases one
  cases other
  cases average
  cases busiest
  rfl

theorem CpuUsage.exists_of? {average busiest : Int} (inRange : 0 ≤ average ∧ average ≤ 100)
    (inRange' : 0 ≤ busiest ∧ busiest ≤ 100) :
    ∃ used, of? average busiest = .ok used ∧ used.average = average ∧ used.busiest = busiest := by
  unfold of?
  rw [dif_pos inRange, dif_pos inRange']
  exact ⟨_, rfl, rfl, rfl⟩

/-- Percentages can always be combined. -/
theorem exists_combineUsages {overall : Int} {cores : List Int} (inRange : 0 ≤ overall ∧ overall ≤ 100)
    (coresInRange : ∀ share ∈ cores, 0 ≤ share ∧ share ≤ 100) :
    ∃ used, combineUsages overall cores = .ok used ∧ used.average = overall ∧
      used.busiest = cores.foldl max overall := by
  have busiestInRange : 0 ≤ cores.foldl max overall ∧ cores.foldl max overall ≤ 100 := by
    rcases (isGreatest_foldl_max overall cores).1 with start | member
    · rw [start]
      exact inRange
    · exact coresInRange _ member
  obtain ⟨used, made, figures⟩ := CpuUsage.exists_of? inRange busiestInRange
  refine ⟨used, ?_, figures⟩
  unfold combineUsages
  rw [made]
  rfl

/-! ### Whole captures -/

namespace CpuLines

variable {earlier later : CpuLines}

/-- The usages of the cores that are compared. -/
def coreShares (earlier later : CpuLines) : Set Int :=
  {share | ∃ pair ∈ comparedCores earlier later, CpuTicks.usage pair.1 pair.2 = .ok share}

theorem usage_eq (earlier later : CpuLines) : usage earlier later = (do
    let overall ← CpuTicks.usage earlier.overall later.overall
    let cores ← (comparedCores earlier later).mapM fun pair => CpuTicks.usage pair.1 pair.2
    combineUsages overall cores) := by
  unfold usage comparedCores
  split <;> rfl

theorem inRange_of_mapM {pairs : List (CpuTicks × CpuTicks)} {shares : List Int}
    (made : pairs.mapM (fun pair => CpuTicks.usage pair.1 pair.2) = .ok shares) :
    ∀ share ∈ shares, 0 ≤ share ∧ share ≤ 100 := by
  intro share member
  obtain ⟨pair, -, computed⟩ := (mem_iff_of_mapM made share).1 member
  exact CpuTicks.usage_range computed

/-- **The usage between two captures**: the average is that of all cores together, and the busiest core has the
greatest of the average and the usages of the cores that are compared. -/
theorem usage_eq_ok_iff {used : CpuUsage} : usage earlier later = .ok used ↔
    CpuTicks.usage earlier.overall later.overall = .ok used.average ∧
      (∀ pair ∈ comparedCores earlier later, ∃ share, CpuTicks.usage pair.1 pair.2 = .ok share) ∧
      IsGreatest (insert used.average (coreShares earlier later)) used.busiest := by
  have members {shares : List Int}
      (made : (comparedCores earlier later).mapM (fun pair => CpuTicks.usage pair.1 pair.2) = .ok shares) :
      {share | share ∈ shares} = coreShares earlier later := Set.ext (mem_iff_of_mapM made)
  rw [usage_eq]
  constructor
  · intro computed
    obtain ⟨overall, overallComputed, computed⟩ := exists_of_bind_eq_ok computed
    obtain ⟨shares, made, combined⟩ := exists_of_bind_eq_ok computed
    obtain ⟨other, combined', average, busiest⟩ :=
      exists_combineUsages (CpuTicks.usage_range overallComputed) (inRange_of_mapM made)
    obtain rfl := Except.ok.inj (combined.symm.trans combined')
    refine ⟨average ▸ overallComputed, exists_mapM_eq_ok_iff.1 ⟨shares, made⟩, ?_⟩
    rw [← members made, average, busiest]
    exact isGreatest_foldl_max overall shares
  · rintro ⟨overallComputed, coresComputed, busiest⟩
    obtain ⟨shares, made⟩ := exists_mapM_eq_ok_iff.2 coresComputed
    obtain ⟨other, combined, average, busiest'⟩ :=
      exists_combineUsages (CpuTicks.usage_range overallComputed) (inRange_of_mapM made)
    rw [← members made] at busiest
    have same := busiest.unique (isGreatest_foldl_max used.average shares)
    obtain rfl := CpuUsage.eq_of_figures average (busiest'.trans same.symm)
    rw [overallComputed, made]
    exact combined

/-- **There is a usage** exactly when the counters of all cores together and those of the cores that are compared
have one. -/
theorem exists_usage_iff : (∃ used, usage earlier later = .ok used) ↔
    (∃ share, CpuTicks.usage earlier.overall later.overall = .ok share) ∧
      ∀ pair ∈ comparedCores earlier later, ∃ share, CpuTicks.usage pair.1 pair.2 = .ok share := by
  constructor
  · rintro ⟨used, computed⟩
    obtain ⟨overallComputed, coresComputed, -⟩ := usage_eq_ok_iff.1 computed
    exact ⟨⟨_, overallComputed⟩, coresComputed⟩
  · rintro ⟨⟨overall, overallComputed⟩, coresComputed⟩
    obtain ⟨shares, made⟩ := exists_mapM_eq_ok_iff.2 coresComputed
    obtain ⟨used, combined, -⟩ := exists_combineUsages (CpuTicks.usage_range overallComputed) (inRange_of_mapM made)
    refine ⟨used, ?_⟩
    rw [usage_eq, overallComputed, made]
    exact combined

end CpuLines

end HostWatch
