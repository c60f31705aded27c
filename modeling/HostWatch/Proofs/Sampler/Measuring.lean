/-
**Samples in range.**

A measurement reads the four meters one after the other, and then looks at the memories and the threads. The
machine it measures may show anything, and it may be another one at each measurement. What a meter could not
measure counts as no usage; the figures of the memories are those that the probes give, in mebibytes.

* `Sampler.afterReading`, `machineAt`: what the readings of the meters do to a sampler, and the machine at each of
  them, which is the same host all the time.
* `Sampler.run_readMeter`: **reading a meter does not fail**, and shows what the meter does.
* `Sampler.tells_of_takeSample`: **what a sample tells**, field by field, by running the measurement.
* `Sample.InRange`: a sample as it should be; `Sampler.Tells.inRange` derives it from what the meters, the
  probes and the snapshot guarantee.
* `MemoryUsage.usedPercent?_range`, `cell_memoryTable`: the cells of a table of memories are percentages.
* `Sampler.run_measures`: **every sample of a run is in range**, by induction on the events.
-/

import HostWatch.Proofs.Host.Meters
import HostWatch.Proofs.Host.ProcessFigures
import HostWatch.Proofs.Sampler.Recording
import HostWatch.Sample.Columns

namespace HostWatch

/-! ### Tables of memories -/

theorem MemoryUsage.usedPercent?_range {usage : MemoryUsage} {percent : Int}
    (known : usage.usedPercent? = some percent) : 0 ≤ percent ∧ percent ≤ 100 := by
  obtain ⟨sized, -⟩ := percentOfMax?_eq_some_iff.1 known
  have committed : usage.committedPercent? = some (usage.committed * 100 / usage.max) :=
    percentOfMax?_eq_some_iff.2 ⟨sized, rfl⟩
  obtain ⟨nonneg, le_committed, le_hundred⟩ := percents_le known committed
  exact ⟨nonneg, Int.le_trans le_committed le_hundred⟩

/-- **The cells of a table of memories are percentages**, where they are known. -/
theorem cell_memoryTable {samples : List Sample} {row : Row (Option Int)} (isRow : row ∈ memoryTable samples)
    {percent : Int} (isCell : some percent ∈ row.cells) : 0 ≤ percent ∧ percent ≤ 100 := by
  unfold memoryTable at isRow
  obtain ⟨kind, -, rfl⟩ := List.mem_map.1 isRow
  obtain ⟨sample, -, known⟩ := List.mem_map.1 isCell
  obtain ⟨usage, -, known⟩ := Option.bind_eq_some_iff.1 known
  exact MemoryUsage.usedPercent?_range known

/-! ### Samples -/

/-- The percentage in a sample for one of the usages. -/
def Sample.percent (sample : Sample) : CpuFigure → Int
  | .collections => sample.gcCpu
  | .host => sample.cpu.average
  | .process => sample.processCpu
  | .disks => sample.waitingCpu

/-- **A sample as it should be.** -/
structure Sample.InRange (sample : Sample) : Prop where
  percent : ∀ figure, 0 ≤ sample.percent figure ∧ sample.percent figure ≤ 100
  busiest : sample.cpu.average ≤ sample.cpu.busiest ∧ sample.cpu.busiest ≤ 100
  /-- A usage of a memory tells no initial size, and its other figures are in order. -/
  memory : ∀ kind usage, sample.memory kind = some usage →
    usage.init = -1 ∧ 0 ≤ usage.used ∧ usage.used ≤ usage.committed ∧
      (usage.max = -1 ∨ usage.committed ≤ usage.max)
  threads : sample.threads.count = sample.threads.items.length ∧
    0 ≤ sample.threads.daemons ∧ sample.threads.daemons ≤ sample.threads.count

/-- All usages, in the order in which they are read. -/
def CpuFigure.all : List CpuFigure := [collections, host, process, disks]

/-- The usages that are read before one of them. -/
def CpuFigure.earlier : CpuFigure → List CpuFigure
  | collections => []
  | host => [collections]
  | process => [collections, host]
  | disks => [collections, host, process]

namespace Sampler

open Sampling Stateful

theorem averageOf_range (usage : Option CpuUsage) : 0 ≤ averageOf usage ∧ averageOf usage ≤ 100 := by
  unfold averageOf
  cases usage with
  | none => simp
  | some usage => exact ⟨usage.average_nonneg, usage.average_le⟩

theorem clampPercent_averageOf (usage : Option CpuUsage) : clampPercent (averageOf usage) = averageOf usage :=
  clampPercent_eq_self (averageOf_range usage).1 (averageOf_range usage).2

/-! ### Readings of the meters -/

/-- The sampler after it has read one of its meters. -/
def afterReading (sampler : Sampler) (figure : CpuFigure) : Sampler :=
  { sampler with
    meters := fun other =>
      if other = figure then (sampler.meters figure).next sampler.machine else sampler.meters other
    machine := ((sampler.meters figure).read.run.run sampler.machine).2 }

/-- **Reading a meter does not fail.** -/
theorem run_readMeter (sampler : Sampler) (figure : CpuFigure) :
    (readMeter figure).run.run sampler =
      (.ok ((sampler.meters figure).shown sampler.machine), sampler.afterReading figure) := by
  have reads : (look (sampler.meters figure).read).run.run sampler =
      (.ok ((sampler.meters figure).next sampler.machine, (sampler.meters figure).shown sampler.machine),
        { sampler with machine := ((sampler.meters figure).read.run.run sampler.machine).2 }) := by
    rw [run_look, CpuMeter.run_read]
  have get_eq : (get : Sampling Sampler).run.run sampler = (.ok sampler, sampler) := rfl
  unfold readMeter
  rw [run_bind_of_ok get_eq, run_bind_of_ok reads]
  rfl

theorem host_afterReading (sampler : Sampler) (figure : CpuFigure) :
    (sampler.afterReading figure).machine.host = sampler.machine.host :=
  (sampler.meters figure).keeps_read sampler.machine

theorem host_foldl_afterReading (sampler : Sampler) (figures : List CpuFigure) :
    (figures.foldl afterReading sampler).machine.host = sampler.machine.host := by
  induction figures generalizing sampler with
  | nil => rfl
  | cons first rest ih =>
    rw [List.foldl_cons, ih]
    exact sampler.host_afterReading first

/-- The machine as it is when a measurement comes to one of the meters. -/
def machineAt (sampler : Sampler) (figure : CpuFigure) : Machine :=
  (figure.earlier.foldl afterReading sampler).machine

/-- The machine with all meters read. -/
def machineMetered (sampler : Sampler) : Machine :=
  (CpuFigure.all.foldl afterReading sampler).machine

/-- **A measurement misses a usage**: the meter, as the last measurement left it, cannot tell it. -/
def Misses (sampler : Sampler) (figure : CpuFigure) : Prop :=
  (sampler.meters figure).Misses (sampler.machineAt figure)

/-- What a measurement finds out about a usage. -/
def shown (sampler : Sampler) (figure : CpuFigure) : Option CpuUsage :=
  (sampler.meters figure).shown (sampler.machineAt figure)

/-! ### One measurement -/

/-- **What a sample tells** of the machine on which it was taken. -/
structure Tells (sampler : Sampler) (sample : Sample) : Prop where
  percent_eq : ∀ figure, sample.percent figure = averageOf (sampler.shown figure)
  cpu_eq : sample.cpu = (sampler.shown .host).getD .idle
  /-- The usage of a memory is the one that the host shows, in mebibytes. -/
  memory : ∀ kind, ∃ bytes, ((kind.probe sampler.memory).run.run sampler.machineMetered).1 = .ok bytes ∧
    sample.memory kind = bytes.map MemoryUsage.inMebibytes
  host_eq : sampler.machineMetered.host = sampler.machine.host
  threads : sample.threads.Counts

theorem tells_of_takeSample {sampler : Sampler} {sample : Sample}
    (taken : (takeSample.run.run sampler).1 = .ok sample) : sampler.Tells sample := by
  have get_eq (sampler : Sampler) : (get : Sampling Sampler).run.run sampler = (.ok sampler, sampler) := rfl
  unfold takeSample at taken
  rw [run_bind_of_ok (sampler.run_readMeter .collections), run_bind_of_ok (run_readMeter _ .host),
    run_bind_of_ok (run_readMeter _ .process), run_bind_of_ok (run_readMeter _ .disks),
    run_bind_of_ok (get_eq _)] at taken
  -- Each probe answers in turn, on the machine that the one before leaves.
  obtain ⟨own, ownTold, taken⟩ := exists_of_run_bind taken
  obtain ⟨traced, tracedTold, taken⟩ := exists_of_run_bind taken
  obtain ⟨physical, physicalTold, taken⟩ := exists_of_run_bind taken
  obtain ⟨swap, swapTold, taken⟩ := exists_of_run_bind taken
  obtain ⟨threads, threadsTold, taken⟩ := exists_of_run_bind taken
  obtain ⟨modules, -, taken⟩ := exists_of_run_bind taken
  obtain ⟨time, -, taken⟩ := exists_of_run_bind taken
  simp only [run_look] at ownTold tracedTold physicalTold swapTold threadsTold
  have hostOwn := MemoryKind.keeps_probe sampler.memory .process sampler.machineMetered
  have hostTraced := (MemoryKind.keeps_probe sampler.memory .traced _).trans hostOwn
  have hostPhysical := (MemoryKind.keeps_probe sampler.memory .physical _).trans hostTraced
  obtain rfl := Except.ok.inj taken
  refine ⟨fun figure => ?_, rfl, fun kind => ?_, host_foldl_afterReading sampler _, ?_⟩
  · cases figure with
    | collections => exact clampPercent_averageOf _
    | host =>
      show (Option.getD (sampler.shown .host) .idle).average = averageOf (sampler.shown .host)
      cases sampler.shown .host <;> rfl
    | process => exact clampPercent_averageOf _
    | disks => exact clampPercent_averageOf _
  · cases kind with
    | process => exact ⟨own, ownTold, rfl⟩
    | traced =>
      have same := MemoryKind.outcome_probe_congr sampler.memory .traced nofun hostOwn
      exact ⟨traced, same.symm.trans tracedTold, rfl⟩
    | physical =>
      have same := MemoryKind.outcome_probe_congr sampler.memory .physical nofun hostTraced
      exact ⟨physical, same.symm.trans physicalTold, rfl⟩
    | swap =>
      have same := MemoryKind.outcome_probe_congr sampler.memory .swap nofun hostPhysical
      exact ⟨swap, same.symm.trans swapTold, rfl⟩
  · exact yields_takeSnapshot _ _ threads threadsTold

/-- What a measurement misses counts as no usage. -/
theorem Tells.eq_zero_of_misses {sampler : Sampler} {sample : Sample} (tells : sampler.Tells sample)
    {figure : CpuFigure} (misses : sampler.Misses figure) :
    sample.percent figure = 0 ∧ (figure = .host → sample.cpu.busiest = 0) := by
  have nothing : sampler.shown figure = none :=
    ((sampler.meters figure).shown_eq_none_iff (sampler.machineAt figure)).2 misses
  constructor
  · rw [tells.percent_eq, nothing]
    rfl
  · rintro rfl
    rw [tells.cpu_eq, nothing]
    rfl

/-- **What is told of a machine is in range**, whatever it shows. -/
theorem Tells.inRange {sampler : Sampler} {sample : Sample} (tells : sampler.Tells sample) :
    sample.InRange := by
  refine ⟨fun figure => ?_, ⟨?_, sample.cpu.busiest_le⟩, fun kind usage known => ?_, ?_⟩
  · rw [tells.percent_eq]
    exact averageOf_range _
  · rw [tells.cpu_eq]
    cases shows : sampler.shown .host with
    | none => exact CpuUsage.inOrder_single 0
    | some usage => exact CpuMeter.inOrder_of_shown shows
  · obtain ⟨bytes?, told, memory_eq⟩ := tells.memory kind
    rw [memory_eq] at known
    obtain ⟨bytes, bytes_eq, rfl⟩ := Option.map_eq_some_iff.1 known
    have init_eq : bytes.init = -1 := kind.yields_probe sampler.memory _ bytes? told bytes bytes_eq
    have mebibytes : bytes.inMebibytes.init = -1 := by
      show MemoryUsage.figureInMebibytes bytes.init = -1
      rw [init_eq]
      rfl
    have unknown_le := bytes.inMebibytes.unknown_le_max
    have le_max := bytes.inMebibytes.committed_le_max
    exact ⟨mebibytes, bytes.inMebibytes.used_nonneg, bytes.inMebibytes.used_le_committed, by omega⟩
  · exact ⟨tells.threads.count_eq, tells.threads.daemons_le⟩

/-! ### Every measurement of a run -/

theorem tells_of_recorded? {sampler : Sampler} {event : SamplerEvent} {sample : Sample}
    (taken : sampler.recorded? event = some sample) : sampler.Tells sample := by
  unfold recorded? at taken
  split at taken
  · exact tells_of_takeSample (eq_ok_of_toOption taken)
  · cases taken

/-- **Every sample that is taken in a run is in range**, whatever happens to the machine. -/
theorem inRange_of_mem_recorded {sampler : Sampler} {events : List SamplerEvent} {sample : Sample}
    (taken : sample ∈ sampler.recorded events) : sample.InRange := by
  induction events generalizing sampler with
  | nil => cases taken
  | cons first rest ih =>
    rcases List.mem_append.1 taken with now | later
    · exact (tells_of_recorded? (Option.mem_toList.1 now)).inRange
    · exact ih later

/-- **A sampler that measures what it should**, after a run and in its course. -/
structure Measures (sampler : Sampler) (events : List SamplerEvent) : Prop where
  /-- All samples that were taken are in range. -/
  recorded : ∀ sample ∈ sampler.recorded events, sample.InRange
  /-- So is the next one, if its measurement does not fail, and it tells what the meters and the probes do. -/
  next : ∀ sample, (sampler.run events).recorded? (.task .sample) = some sample →
    sample.InRange ∧ (sampler.run events).Tells sample
  /-- A usage that the next measurement misses is none. -/
  missed : ∀ sample, (sampler.run events).recorded? (.task .sample) = some sample →
    ∀ figure, (sampler.run events).Misses figure →
      sample.percent figure = 0 ∧ (figure = .host → sample.cpu.busiest = 0)
  /-- The cells of the table of memories are percentages. -/
  cells : ∀ row ∈ memoryTable (sampler.run events).samples.items, ∀ percent, some percent ∈ row.cells →
    0 ≤ percent ∧ percent ≤ 100

/-- **Every sampler measures what it should**, whatever its meters are and whatever happens to it and to its
machine. -/
theorem run_measures (sampler : Sampler) (events : List SamplerEvent) : sampler.Measures events := by
  refine ⟨fun sample taken => inRange_of_mem_recorded taken, fun sample taken => ?_,
    fun sample taken figure misses => ?_, fun row isRow percent isCell => cell_memoryTable isRow isCell⟩
  · have tells := tells_of_recorded? taken
    exact ⟨tells.inRange, tells⟩
  · exact (tells_of_recorded? taken).eq_zero_of_misses misses

/-- A new sampler of a host without files. -/
def fileless : Sampler :=
  of .forSamples .forProblems (fun _ => .of .hostFile) .file .empty none none (.ofHost .bare)

/-- Its measurement misses the usage of the host, and is taken all the same. -/
example : fileless.Misses .host ∧ (fileless.recorded? (.task .sample)).isSome :=
  ⟨.inl ⟨_, rfl⟩, by decide +kernel⟩

end Sampler

end HostWatch
