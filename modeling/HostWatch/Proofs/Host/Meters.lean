/-
**What the meters show.**

There are eight ways to measure CPU usage, and each of them has its own counters, units and ways to fail.
Whatever the counters say, the average of a usage is at most the usage of the busiest core: either both are one
clamped figure, or the busiest core is the greatest of some figures, the average among them.

* `isGreatest_foldl_max`: the greatest of a number and the members of a list.
* `CpuMeasure.yields_inOrder`: **every way to measure gives usages in order**, by cases on the ways.
* `CpuMeasure.keeps_capture`, `keeps_usage`: it leaves the host alone.
* `CpuMeter.shown`, `CpuMeter.Misses`: what a meter shows of a machine, and when it shows nothing.
* `CpuMeter.run_read`: **one reading of a meter**, which cannot fail.
-/

import HostWatch.Host.CpuMeter
import HostWatch.Proofs.Host.Gauge
import Mathlib.Order.Bounds.Basic
import Mathlib.Order.MinMax
import Mathlib.Tactic.SplitIfs

namespace HostWatch

open Stateful

/-! ### Usages in order -/

/-- The average is at most the usage of the busiest core. -/
def CpuUsage.InOrder (usage : CpuUsage) : Prop := usage.average ≤ usage.busiest

theorem CpuUsage.inOrder_single (n : Int) : (single n).InOrder := Int.le_refl _

theorem CpuUsage.of?_eq_ok {average busiest : Int} {usage : CpuUsage} (made : of? average busiest = .ok usage) :
    usage.average = average ∧ usage.busiest = busiest := by
  unfold of? at made
  split_ifs at made
  obtain rfl := Except.ok.inj made
  exact ⟨rfl, rfl⟩

/-- The greatest of a number and the members of a list. -/
theorem isGreatest_foldl_max (n : Int) (others : List Int) :
    IsGreatest (insert n {other | other ∈ others}) (others.foldl max n) := by
  induction others generalizing n with
  | nil => simp
  | cons other rest ih =>
    obtain ⟨attained, bounds⟩ := ih (max n other)
    constructor
    · rcases attained with start | member
      · rw [List.foldl_cons, start]
        rcases max_choice n other with first | second
        · exact .inl first
        · right
          rw [second]
          exact List.mem_cons_self
      · exact .inr (List.mem_cons_of_mem other member)
    · have start : max n other ≤ rest.foldl max (max n other) := bounds (.inl rfl)
      rintro m (rfl | member)
      · exact (le_max_left m other).trans start
      · rcases List.mem_cons.1 member with rfl | member
        · exact (le_max_right n m).trans start
        · exact bounds (.inr member)

/-- The overall usage is among the figures of which the busiest core has the greatest. -/
theorem inOrder_combineUsages {overall : Int} {cores : List Int} {usage : CpuUsage}
    (made : combineUsages overall cores = .ok usage) : usage.InOrder := by
  unfold combineUsages at made
  obtain ⟨average_eq, busiest_eq⟩ := CpuUsage.of?_eq_ok (eq_ok_of_mapError made)
  unfold CpuUsage.InOrder
  rw [average_eq, busiest_eq]
  exact (isGreatest_foldl_max overall cores).2 (.inl rfl)

theorem CpuLines.inOrder_usage {earlier later : CpuLines} {used : CpuUsage}
    (computed : usage earlier later = .ok used) : used.InOrder := by
  unfold usage at computed
  obtain ⟨overall, -, computed⟩ := exists_of_bind_eq_ok computed
  dsimp only at computed
  split_ifs at computed
  · obtain ⟨cores, -, computed⟩ := exists_of_bind_eq_ok computed
    exact inOrder_combineUsages computed
  · exact inOrder_combineUsages computed

theorem CpuCounters.inOrder_usage {earlier later : CpuCounters} {used : CpuUsage}
    (computed : usage earlier later = .ok used) : used.InOrder := by
  unfold usage at computed
  obtain ⟨overall, -, computed⟩ := exists_of_bind_eq_ok computed
  dsimp only at computed
  split_ifs at computed
  · obtain ⟨cores, -, computed⟩ := exists_of_bind_eq_ok computed
    exact inOrder_combineUsages computed
  · exact inOrder_combineUsages computed

theorem CollectionTime.inOrder_usage {earlier later : CollectionTime} {used : CpuUsage}
    (computed : usage earlier later = .ok used) : used.InOrder := by
  unfold usage at computed
  dsimp only at computed
  split_ifs at computed
  · obtain rfl := Except.ok.inj computed
    exact CpuUsage.inOrder_single 0
  · obtain rfl := Except.ok.inj computed
    exact CpuUsage.inOrder_single _

theorem TimedCpu.yields_inOrder (earlier later : TimedCpu) : Yields CpuUsage.InOrder (usage earlier later) := by
  unfold usage
  refine yields_bind _ fun used => ?_
  split
  · exact yields_throw _
  · split
    · exact yields_pure (CpuUsage.inOrder_single 0)
    · exact yields_bind _ fun cpus => yields_bind _ fun percent => yields_pure (CpuUsage.inOrder_single _)

/-! ### Ways to measure -/

namespace CpuMeasure

theorem yields_diskUsage (earlier later : DiskActivity) :
    Yields CpuUsage.InOrder (diskUsage earlier later) :=
  yields_bind _ fun _ => yields_bind _ fun _ => yields_pure (CpuUsage.inOrder_single _)

/-- **Every way to measure gives usages in order**, whatever it captured. -/
theorem yields_inOrder (measure : CpuMeasure) (earlier later : measure.Capture) :
    Yields CpuUsage.InOrder (measure.gauge.usage earlier later) := by
  cases measure with
  | nothing => exact yields_pure (CpuUsage.inOrder_single 0)
  | hostFile => exact Probe.yields_ofExcept fun _ => CpuLines.inOrder_usage
  | hostTimes => exact Probe.yields_ofExcept fun _ => CpuCounters.inOrder_usage
  | diskFile => exact yields_diskUsage earlier later
  | diskTimes => exact yields_diskUsage earlier later
  | processFile id => exact TimedCpu.yields_inOrder earlier later
  | processTimes id => exact TimedCpu.yields_inOrder earlier later
  | collections => exact Probe.yields_ofExcept fun _ => CollectionTime.inOrder_usage

/-! ### The host -/

theorem keeps_cpuCount : Keeps Machine.host cpuCount :=
  Probe.keeps_once _ (fun _ _ => rfl) fun _ => rfl

theorem keeps_systemFigure (reading : Reading Int) (fallback : Int) :
    Keeps Machine.host (systemFigure reading fallback) := by
  unfold systemFigure
  cases reading with
  | ok n => exact keeps_pure n
  | error error =>
    dsimp only
    split
    · exact keeps_pure fallback
    · exact keeps_throw _

theorem keeps_clockTicks : Keeps Machine.host clockTicks := by
  refine Probe.keeps_once _ (fun _ _ => rfl) ?_
  exact Keeps.bind (fun _ => rfl) fun host => keeps_systemFigure _ _

theorem keeps_sharedCollections : Keeps Machine.host sharedCollections :=
  Probe.keeps_once _ (fun _ _ => rfl) fun _ => rfl

theorem keeps_readFile (file : HostFile) : Keeps Machine.host (readFile file) := Probe.keeps_ofExcept _

theorem keeps_require {α : Type} (figure : Option α) : Keeps Machine.host (require figure) := by
  cases figure with
  | none => exact keeps_throw _
  | some a => exact keeps_pure a

theorem keeps_captureProcessFile (host : Host) : Keeps Machine.host (captureProcessFile host) := by
  unfold captureProcessFile
  refine (keeps_readFile _).bind fun text => (Probe.keeps_ofExcept _).bind fun stat => ?_
  refine keeps_clockTicks.bind fun ticks => (Probe.keeps_ofExcept _).bind fun seconds => ?_
  exact keeps_pure _

theorem keeps_captureProcessTimes (host : Host) : Keeps Machine.host (captureProcessTimes host) := by
  unfold captureProcessTimes
  exact (keeps_require _).bind fun times => (Probe.keeps_ofExcept _).bind fun cpu => keeps_pure _

/-- **A capture leaves the host alone**, also when it fails. -/
theorem keeps_capture (measure : CpuMeasure) : Keeps Machine.host measure.gauge.capture := by
  have look : Keeps Machine.host Probe.host := fun _ => rfl
  cases measure with
  | nothing => exact keeps_pure none
  | hostFile =>
    refine look.bind fun host => (keeps_readFile _).bind fun text => ?_
    exact (Probe.keeps_ofExcept _).bind fun lines => keeps_pure _
  | hostTimes => exact look.bind fun host => (keeps_require _).bind fun times => keeps_pure _
  | diskFile =>
    refine look.bind fun host => (keeps_readFile _).bind fun text => ?_
    exact (Probe.keeps_ofExcept _).bind fun activity => keeps_pure _
  | diskTimes => exact look.bind fun host => keeps_pure _
  | processFile id =>
    exact look.bind fun host => (keeps_captureProcessFile host).bind fun timed => keeps_pure _
  | processTimes id =>
    exact look.bind fun host => (keeps_captureProcessTimes host).bind fun timed => keeps_pure _
  | collections => exact keeps_sharedCollections.bind fun collections => look.bind fun host => keeps_pure _

theorem keeps_diskUsage (earlier later : DiskActivity) : Keeps Machine.host (diskUsage earlier later) :=
  keeps_cpuCount.bind fun _ => (Probe.keeps_ofExcept _).bind fun _ => keeps_pure _

theorem keeps_timedUsage (earlier later : TimedCpu) :
    Keeps Machine.host (TimedCpu.usage earlier later) := by
  unfold TimedCpu.usage
  refine (Probe.keeps_ofExcept _).bind fun used => ?_
  split
  · exact keeps_throw _
  · split
    · exact keeps_pure _
    · exact keeps_cpuCount.bind fun cpus => (Probe.keeps_ofExcept _).bind fun percent => keeps_pure _

theorem keeps_usage (measure : CpuMeasure) (earlier later : measure.Capture) :
    Keeps Machine.host (measure.gauge.usage earlier later) := by
  cases measure with
  | nothing => exact keeps_pure _
  | hostFile => exact Probe.keeps_ofExcept _
  | hostTimes => exact Probe.keeps_ofExcept _
  | diskFile => exact keeps_diskUsage earlier later
  | diskTimes => exact keeps_diskUsage earlier later
  | processFile id => exact keeps_timedUsage earlier later
  | processTimes id => exact keeps_timedUsage earlier later
  | collections => exact Probe.keeps_ofExcept _

end CpuMeasure

/-! ### Meters -/

namespace CpuMeter

/-- What a reading of a meter meets. -/
def occasion (meter : CpuMeter) (machine : Machine) : Occasion meter.measure.Capture :=
  .of meter.measure.gauge machine

/-- **A reading misses its usage**: its capture fails, or the usage since the last one that it knows. -/
def Misses (meter : CpuMeter) (machine : Machine) : Prop :=
  (meter.occasion machine).Fails meter.previous

/-- What a reading shows. -/
def shown (meter : CpuMeter) (machine : Machine) : Option CpuUsage :=
  ((meter.occasion machine).reading meter.previous).usage

/-- The meter after a reading. -/
def next (meter : CpuMeter) (machine : Machine) : CpuMeter :=
  ⟨meter.measure, ((meter.occasion machine).reading meter.previous).previous⟩

theorem shown_eq_none_iff (meter : CpuMeter) (machine : Machine) :
    meter.shown machine = none ↔ meter.Misses machine :=
  (meter.occasion machine).usage_reading_eq_none_iff meter.previous

/-- **One reading of a meter** cannot fail. -/
theorem run_read (meter : CpuMeter) (machine : Machine) :
    (meter.read.run.run machine).1 = .ok (meter.next machine, meter.shown machine) := by
  have reads := CpuGauge.run_read meter.measure.gauge meter.previous machine
  unfold read
  rw [run_bind]
  generalize (meter.measure.gauge.read meter.previous).run.run machine = result at reads
  obtain ⟨outcome, after⟩ := result
  obtain rfl : outcome = .ok _ := reads
  rfl

theorem inOrder_of_shown {meter : CpuMeter} {machine : Machine} {usage : CpuUsage}
    (shows : meter.shown machine = some usage) : usage.InOrder := by
  rcases Occasion.eq_idle_or_of_usage_reading shows with rfl | ⟨earlier, later, computed⟩
  · exact CpuUsage.inOrder_single 0
  · exact meter.measure.yields_inOrder earlier later _ usage computed

theorem keeps_read (meter : CpuMeter) : Keeps Machine.host meter.read :=
  (CpuGauge.keeps_read meter.measure.keeps_capture meter.measure.keeps_usage meter.previous).bind
    fun _ => keeps_pure _

end CpuMeter

end HostWatch
