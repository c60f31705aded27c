/-
**The contract of the ways to measure that count in whole numbers.**

Such a way to measure shows no usage between a capture and itself, and always one between two captures when no
counter went back and time passed. The other way round the usage of the host and the waiting for disks are refused,
while the share of collections is none at all.

* `CpuMeasure.answer`: what a way to measure makes of two captures.
* `DiskActivity.share`, `percent_of_passes`: **the share of time spent on disks**, whether or not the counters went
  back.
* `CpuMeasure.Contract`, `CpuMeasure.RefusesReversed`: what the meters rely on.
* `CpuMeasure.answer_reversed_collections`: what sets the collections apart.
* `CpuMeasure.keepContracts`: **the file with the CPU counters, both ways to measure disks and the collections keep
  it.**
-/

import HostWatch.Proofs.Host.CollectionSpans
import HostWatch.Proofs.Host.CoreAverage

namespace HostWatch

open Stateful

/-! ### Captures of all cores -/

theorem CpuTicks.usage_self (ticks : CpuTicks) : usage ticks ticks = .ok 0 := by
  have grown : Grows ticks ticks := ⟨le_rfl, le_rfl, le_rfl, le_rfl⟩
  rw [usage_of_grows grown, busyShare, if_pos rfl]

/-- Where the time of all counters together went back there is no usage. -/
theorem CpuTicks.usage_of_backwards {earlier later : CpuTicks} (backwards : later.total < earlier.total) :
    usage earlier later =
      .error (.doesNotPrecede "prev" earlier.toText later.toText (earlier.integers ++ later.integers)) := by
  unfold usage
  dsimp only
  exact if_pos (.inl (by omega))

namespace CpuLines

/-- No counter went back, and time passed for all cores together. -/
def Advances (earlier later : CpuLines) : Prop :=
  earlier.overall.Grows later.overall ∧ earlier.overall.total < later.overall.total ∧
    ∀ pair ∈ comparedCores earlier later, pair.1.Grows pair.2

instance (earlier later : CpuLines) : Decidable (Advances earlier later) :=
  inferInstanceAs (Decidable (_ ∧ _))

example : Advances ⟨⟨3, 0, 0, 5⟩, [⟨1, 0, 0, 3⟩, ⟨2, 0, 0, 2⟩]⟩ ⟨⟨4, 0, 0, 6⟩, [⟨1, 0, 0, 4⟩, ⟨3, 0, 0, 2⟩]⟩ := by
  decide

theorem usage_self (lines : CpuLines) : usage lines lines = .ok .idle := by
  have same : ∀ pair ∈ comparedCores lines lines, CpuTicks.usage pair.1 pair.2 = .ok 0 := by
    intro pair member
    rw [comparedCores, if_pos rfl] at member
    have itself : pair.1 = pair.2 := List.forall₂_zip (List.forall₂_same.2 fun _ _ => rfl) member
    rw [itself]
    exact CpuTicks.usage_self pair.2
  refine usage_eq_ok_iff.2 ⟨CpuTicks.usage_self _, fun pair member => ⟨0, same pair member⟩, .inl rfl, ?_⟩
  rintro share (rfl | ⟨pair, member, computed⟩)
  · exact Int.le_refl 0
  · exact (Except.ok.inj (computed.symm.trans (same pair member))).le

theorem exists_usage_of_advances {earlier later : CpuLines} (advances : Advances earlier later) :
    ∃ used, usage earlier later = .ok used := by
  obtain ⟨grown, -, coresGrown⟩ := advances
  exact exists_usage_iff.2 ⟨⟨_, CpuTicks.usage_of_grows grown⟩,
    fun pair member => ⟨_, CpuTicks.usage_of_grows (coresGrown pair member)⟩⟩

/-- Where the time of all cores together went back there is no usage, whatever the cores count. -/
theorem usage_of_backwards {earlier later : CpuLines} (backwards : later.overall.total < earlier.overall.total) :
    usage earlier later = .error (.doesNotPrecede "prev" earlier.overall.toText later.overall.toText
      (earlier.overall.integers ++ later.overall.integers)) := by
  rw [usage_eq, CpuTicks.usage_of_backwards backwards]
  rfl

end CpuLines

/-! ### Captures of disks -/

/-- A figure that is clamped already is not changed. -/
theorem CpuUsage.single_clampPercent (n : Int) : single (clampPercent n) = single n := by
  have clamped := clampPercent_eq_self (clampPercent_nonneg n) (clampPercent_le n)
  exact eq_of_figures clamped clamped

namespace DiskActivity

/-- The time spent did not go back, and time passed. -/
def Advances (earlier later : DiskActivity) : Prop := earlier.spent ≤ later.spent ∧ earlier.time < later.time

theorem percent_self (activity : DiskActivity) (cpus : Int) : percent activity activity cpus = .ok 0 := by
  unfold percent
  dsimp only
  rw [Int.sub_self, if_neg (Int.lt_irrefl 0), if_pos rfl]

/-- The share of time spent for each CPU, in percent and rounded down, whether or not the counters went back. -/
def share (earlier later : DiskActivity) (cpus : Int) : Int :=
  ⌊((100 * (later.spent - earlier.spent) : Int) : ℚ) / (((later.time - earlier.time) * max 1 cpus : Int) : ℚ)⌋

/-- **Rounded down after each division or once, the share of time spent is the same.** -/
theorem percent_of_passes {earlier later : DiskActivity} (passes : earlier.time < later.time) (cpus : Int) :
    percent earlier later cpus = .ok (clampPercent (share earlier later cpus)) := by
  have passed : 0 ≤ later.time - earlier.time := by omega
  have counted : 0 ≤ max 1 cpus := by omega
  unfold percent share
  dsimp only
  rw [if_neg (by omega), if_neg (by omega), Int.cast_mul (later.time - earlier.time), ← div_div,
    Int.floor_div_cast_of_nonneg counted, Int.floor_div_cast_of_nonneg passed, Int.floor_intCast, Int.mul_comm]

/-- Where the time went back there is no share. -/
theorem percent_of_backwards {earlier later : DiskActivity} (backwards : later.time < earlier.time) (cpus : Int) :
    percent earlier later cpus =
      .error (.notSampledEarlier earlier.toText later.toText (earlier.integers ++ later.integers)) := by
  unfold percent
  dsimp only
  exact if_pos (by omega)

end DiskActivity

/-! ### Captures of collections -/

namespace CollectionTime

/-- The time spent did not go back, and time passed. -/
def Advances (earlier later : CollectionTime) : Prop := earlier.spent ≤ later.spent ∧ earlier.time < later.time

/-- Where no time passed there is no share, whatever was spent. -/
theorem usage_of_time_le {earlier later : CollectionTime} (still : later.time ≤ earlier.time) :
    usage earlier later = .ok .idle := by
  unfold usage
  dsimp only
  exact if_pos (by omega)

end CollectionTime

/-! ### The contract -/

/-- The number of CPUs by which a machine divides. -/
def Machine.cpus (machine : Machine) : Int := machine.cpuCount.getD machine.host.findCpuCount

theorem run_cpuCount (machine : Machine) : (cpuCount.run.run machine).1 = .ok machine.cpus := by
  unfold Machine.cpus
  cases known : machine.cpuCount with
  | some count => exact congrArg Prod.fst (Probe.run_once_of_known _ _ known)
  | none =>
    unfold cpuCount Probe.once
    have seen : (get : Probe Machine).run.run machine = (.ok machine, machine) := rfl
    rw [run_bind_of_ok seen, known]
    rfl

namespace CpuMeasure

/-- What a way to measure makes of two captures on a machine. -/
def answer (measure : CpuMeasure) (earlier later : measure.Capture) (machine : Machine) : Except Failure CpuUsage :=
  ((measure.gauge.usage earlier later).run.run machine).1

/-- **The contract of a way to measure**, given which captures come before which. -/
structure Contract (measure : CpuMeasure) (advances : measure.Capture → measure.Capture → Prop) : Prop where
  /-- There is no usage between a capture and itself. -/
  answer_self : ∀ capture machine, measure.answer capture capture machine = .ok .idle
  /-- There always is one between two captures in order, and its figures are in order. -/
  exists_answer : ∀ earlier later machine, advances earlier later →
    ∃ used, measure.answer earlier later machine = .ok used ∧
      0 ≤ used.average ∧ used.average ≤ used.busiest ∧ used.busiest ≤ 100

/-- Captures in reversed order are refused. -/
def RefusesReversed (measure : CpuMeasure) (advances : measure.Capture → measure.Capture → Prop) : Prop :=
  ∀ earlier later machine, advances earlier later →
    ∃ failure, measure.answer later earlier machine = .error failure ∧ failure.kind = .wrongValue

/-- What has a usage has one in order. -/
theorem exists_inOrder {measure : CpuMeasure} {earlier later : measure.Capture} {machine : Machine}
    (computed : ∃ used, measure.answer earlier later machine = .ok used) :
    ∃ used, measure.answer earlier later machine = .ok used ∧
      0 ≤ used.average ∧ used.average ≤ used.busiest ∧ used.busiest ≤ 100 := by
  obtain ⟨used, computed⟩ := computed
  have inOrder := measure.yields_inOrder earlier later machine used computed
  exact ⟨used, computed, used.average_nonneg, inOrder, used.busiest_le⟩

theorem answer_hostFile (earlier later : CpuLines) (machine : Machine) :
    hostFile.answer earlier later machine = CpuLines.usage earlier later :=
  congrArg Prod.fst (Probe.run_ofExcept _ machine)

theorem answer_collections (earlier later : CollectionTime) (machine : Machine) :
    collections.answer earlier later machine = CollectionTime.usage earlier later :=
  congrArg Prod.fst (Probe.run_ofExcept _ machine)

/-- Both ways to measure disks show the share of time spent, for as many CPUs as there are. -/
theorem run_diskUsage (earlier later : DiskActivity) (machine : Machine) :
    ((diskUsage earlier later).run.run machine).1 =
      (DiskActivity.percent earlier later machine.cpus).map CpuUsage.single := by
  have counted := run_cpuCount machine
  unfold diskUsage
  rw [run_bind]
  generalize cpuCount.run.run machine = result at counted
  obtain ⟨outcome, after⟩ := result
  obtain rfl : outcome = .ok _ := counted
  dsimp only
  rw [run_bind, Probe.run_ofExcept]
  cases DiskActivity.percent earlier later machine.cpus <;> rfl

theorem answer_diskFile {earlier later : DiskActivity} {machine : Machine} {outcome : Except Failure Int}
    (percent : DiskActivity.percent earlier later machine.cpus = outcome) :
    diskFile.answer earlier later machine = outcome.map CpuUsage.single :=
  percent ▸ run_diskUsage earlier later machine

theorem answer_diskFile_of_passes {earlier later : DiskActivity} (passes : earlier.time < later.time)
    (machine : Machine) : diskFile.answer earlier later machine = .ok (.single (earlier.share later machine.cpus)) := by
  have answers := answer_diskFile (DiskActivity.percent_of_passes passes machine.cpus)
  rw [answers]
  exact congrArg Except.ok (CpuUsage.single_clampPercent _)

theorem contract_hostFile : hostFile.Contract CpuLines.Advances where
  answer_self lines machine := (answer_hostFile lines lines machine).trans lines.usage_self
  exists_answer earlier later machine advances :=
    exists_inOrder ((CpuLines.exists_usage_of_advances advances).imp fun _ computed =>
      (answer_hostFile earlier later machine).trans computed)

theorem contract_diskFile : diskFile.Contract DiskActivity.Advances where
  answer_self activity machine := answer_diskFile (activity.percent_self machine.cpus)
  exists_answer _ _ machine advances := exists_inOrder ⟨_, answer_diskFile_of_passes advances.2 machine⟩

theorem contract_collections : collections.Contract CollectionTime.Advances where
  answer_self time machine := (answer_collections time time machine).trans (CollectionTime.usage_of_time_le le_rfl)
  exists_answer earlier later machine advances :=
    exists_inOrder ⟨_, (answer_collections earlier later machine).trans (CollectionTime.usage_of_le advances.1)⟩

theorem refusesReversed_hostFile : hostFile.RefusesReversed CpuLines.Advances := by
  rintro earlier later machine ⟨-, passed, -⟩
  exact ⟨_, (answer_hostFile later earlier machine).trans (CpuLines.usage_of_backwards passed), rfl⟩

theorem refusesReversed_diskFile : diskFile.RefusesReversed DiskActivity.Advances := by
  rintro earlier later machine ⟨-, passed⟩
  exact ⟨_, answer_diskFile (DiskActivity.percent_of_backwards passed machine.cpus), rfl⟩

/-- Captures of collections in reversed order are not refused, since nothing is shared out where no time passed. -/
theorem answer_reversed_collections {earlier later : CollectionTime} (advances : earlier.Advances later)
    (machine : Machine) : collections.answer later earlier machine = .ok .idle :=
  (answer_collections later earlier machine).trans (CollectionTime.usage_of_time_le advances.2.le)

/-- **What the ways to measure keep to that count in whole numbers.** -/
structure KeepContracts : Prop where
  host_contract : hostFile.Contract CpuLines.Advances
  host_reversed : hostFile.RefusesReversed CpuLines.Advances
  diskFile_contract : diskFile.Contract DiskActivity.Advances
  diskFile_reversed : diskFile.RefusesReversed DiskActivity.Advances
  diskTimes_contract : diskTimes.Contract DiskActivity.Advances
  diskTimes_reversed : diskTimes.RefusesReversed DiskActivity.Advances
  collections_contract : collections.Contract CollectionTime.Advances
  /-- Where time passed, both figures of the waiting for disks are the share of time spent, clamped. -/
  disk_shares : ∀ (earlier later : DiskActivity) machine, earlier.time < later.time →
    diskFile.answer earlier later machine = .ok (.single (earlier.share later machine.cpus)) ∧
      diskTimes.answer earlier later machine = .ok (.single (earlier.share later machine.cpus))

/-- **The ways to measure that count in whole numbers keep their contract.** The two that measure disks differ in
where the counters come from alone. -/
theorem keepContracts : KeepContracts where
  host_contract := contract_hostFile
  host_reversed := refusesReversed_hostFile
  diskFile_contract := contract_diskFile
  diskFile_reversed := refusesReversed_diskFile
  diskTimes_contract := ⟨contract_diskFile.answer_self, contract_diskFile.exists_answer⟩
  diskTimes_reversed := refusesReversed_diskFile
  collections_contract := contract_collections
  disk_shares _ _ machine passes :=
    ⟨answer_diskFile_of_passes passes machine, answer_diskFile_of_passes passes machine⟩

end CpuMeasure

end HostWatch
