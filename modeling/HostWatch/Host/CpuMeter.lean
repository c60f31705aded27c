/-
**Meters of CPU usage on a host.**

The usage of the host, its waiting for input and output, and the usage of one process are measured by
the files of Linux or by the counters of Windows. Which of the two it is, is decided when a meter is
made; where there is neither, the meter always shows no usage. The share of time spent on garbage
collections is measured by their events.

* `CpuMeasure` names the ways to measure, `Capture` what each of them captures.
* `CpuMeter.read` shows the usage since the reading before.
-/
import HostWatch.Clock
import HostWatch.Host.CpuGauge
import HostWatch.Host.CpuLines
import HostWatch.Host.DiskActivity
import HostWatch.Host.Machine
import HostWatch.Host.ProcessStat

namespace HostWatch

/-- The CPU time that a process has used up to a moment. -/
structure TimedCpu where
  /-- The CPU time, in seconds. -/
  cpu : Number
  /-- The moment, in seconds. -/
  moment : Binary64

namespace TimedCpu

/-- The text of a capture in messages. -/
def toText (timed : TimedCpu) : String :=
  "_TimedCpuTime(cpu_seconds=" ++ timed.cpu.toText ++ ", wall_seconds=" ++
    timed.moment.shortestText ++ ")"

/-- The usage between two captures on a host with a number of CPUs, the fraction dropped. -/
def percent (used : Number) (passed : Binary64) (cpus : Int) : Except ArithmeticFault Int := do
  let hundredfold ← used.mul (.int 100)
  let overTime ← hundredfold.div (.real passed)
  let perCpu ← (Number.real overTime).div (.int cpus)
  perCpu.truncate

def usage (earlier later : TimedCpu) : Probe CpuUsage := do
  let passed := later.moment.sub earlier.moment
  let used ← Probe.ofExcept ((later.cpu.sub earlier.cpu).mapError Failure.arithmetic)
  if passed.isNegative || used.isNegative then
    throw (.doesNotPrecede "m1" earlier.toText later.toText (earlier.cpu.integers ++ later.cpu.integers))
  else if passed.isZero then return .idle
  else
    let cpus ← cpuCount
    return .single (← Probe.ofExcept ((percent used passed cpus).mapError Failure.arithmetic))

end TimedCpu

/-- A capture of the CPU times of a host: those of all cores together, and those of each core. -/
structure CpuCounters where
  overall : CpuTimes
  cores : List CpuTimes

namespace CpuCounters

/-- The text of CPU times in messages. -/
def timesText (times : CpuTimes) : String :=
  "scputimes(" ++ ", ".intercalate (times.map fun (name, n) => name ++ "=" ++ n.toText) ++ ")"

/-- The integers in the text of CPU times. -/
def integers (times : CpuTimes) : List Int := times.flatMap fun (_, n) => n.integers

def total (times : CpuTimes) : Except ArithmeticFault Number :=
  Number.sum (times.map Prod.snd)

/-- The name of the time without work. -/
def idleName : String := "idle"

/-- The error reported for times that do not tell the time without work. -/
def missingIdle : ReportedError := .of "AttributeError" [.text idleName]

def idle (times : CpuTimes) : Except Failure Number :=
  match times.lookup idleName with
  | some n => .ok n
  | none => .error (.reported missingIdle)

/-- The usage between two captures of CPU times, in percent. -/
def percent (earlier later : CpuTimes) : Except Failure Int := do
  let after ← (total later).mapError Failure.arithmetic
  let before ← (total earlier).mapError Failure.arithmetic
  let passed ← (after.sub before).mapError Failure.arithmetic
  let idled ← ((← idle later).sub (← idle earlier)).mapError Failure.arithmetic
  if passed.isNegative || idled.isNegative then
    throw (.doesNotPrecede "m1" (timesText earlier) (timesText later) (integers earlier ++ integers later))
  else if passed.isZero then return 0
  else
    let share ← Except.mapError Failure.arithmetic do
      let hundredfold ← idled.mul (.int 100)
      let quotient ← hundredfold.div passed
      quotient.truncate
    return 100 - clampPercent share

def usage (earlier later : CpuCounters) : Except Failure CpuUsage := do
  let overall ← percent earlier.overall later.overall
  let cores ←
    if later.cores.length = earlier.cores.length then
      (earlier.cores.zip later.cores).mapM fun (e, l) => percent e l
    else .ok []
  combineUsages overall cores

end CpuCounters

/-- The ways to measure CPU usage. -/
inductive CpuMeasure where
  | nothing
  /-- The usage of the host, by the file with the CPU counters. -/
  | hostFile
  | hostTimes
  /-- The waiting for disks, by the file with their counters. -/
  | diskFile
  | diskTimes
  /-- The usage of a process, by the file with its counters. -/
  | processFile (id : Int)
  | processTimes (id : Int)
  /-- The share of time spent on garbage collections. -/
  | collections
deriving DecidableEq

namespace CpuMeasure

def Capture : CpuMeasure → Type
  | nothing => Empty
  | hostFile => CpuLines
  | hostTimes => CpuCounters
  | diskFile => DiskActivity
  | diskTimes => DiskActivity
  | processFile _ => TimedCpu
  | processTimes _ => TimedCpu
  | collections => CollectionTime

/-- The error reported where counters cannot be had. -/
def unavailable : Failure := .reported HostFile.unreadableError

def readFile (file : HostFile) : Probe (List Char) :=
  Probe.ofExcept (file.read.mapError Failure.reported)

def require {α : Type} : Option α → Probe α
  | some a => pure a
  | none => throw unavailable

/-- The CPU time of a process by the file with its counters. -/
def captureProcessFile (host : Host) : Probe TimedCpu := do
  let stat ← Probe.ofExcept (ProcessStat.parse (← readFile host.processFile))
  let ticks ← clockTicks
  let seconds ← Probe.ofExcept
    ((Binary64.ofQuotient (stat.user + stat.system) ticks).mapError Failure.arithmetic)
  return ⟨.real seconds, clockSeconds host.clock⟩

/-- The CPU time of a process by its times. -/
def captureProcessTimes (host : Host) : Probe TimedCpu := do
  let (user, system) ← require host.processTimes
  let cpu ← Probe.ofExcept ((user.add system).mapError Failure.arithmetic)
  return ⟨cpu, clockSeconds host.clock⟩

/-- The usage between two captures of disk activity. -/
def diskUsage (earlier later : DiskActivity) : Probe CpuUsage := do
  let cpus ← cpuCount
  return .single (← Probe.ofExcept (DiskActivity.percent earlier later cpus))

def gauge : (measure : CpuMeasure) → CpuGauge (ExceptT Failure (StateM Machine)) measure.Capture
  | nothing => ⟨pure none, fun _ _ => pure .idle⟩
  | hostFile => {
      capture := do
        return some (← Probe.ofExcept (CpuLines.parse (← readFile (← Probe.host).cpuFile)))
      usage := fun earlier later => Probe.ofExcept (CpuLines.usage earlier later) }
  | hostTimes => {
      capture := do
        let host ← Probe.host
        return some ⟨← require host.cpuTimes, host.coreTimes⟩
      usage := fun earlier later => Probe.ofExcept (CpuCounters.usage earlier later) }
  | diskFile => {
      capture := do
        let host ← Probe.host
        return some (← Probe.ofExcept (DiskActivity.parse (← readFile host.diskFile) host.clock))
      usage := diskUsage }
  | diskTimes => {
      capture := do
        let host ← Probe.host
        return host.diskTimes.map fun (reading, writing) => ⟨reading + writing, host.clock⟩
      usage := diskUsage }
  | processFile _ => {
      capture := do return some (← captureProcessFile (← Probe.host))
      usage := TimedCpu.usage }
  | processTimes _ => {
      capture := do return some (← captureProcessTimes (← Probe.host))
      usage := TimedCpu.usage }
  | collections => {
      capture := do return some ⟨(← sharedCollections).totalMillis, (← Probe.host).clock⟩
      usage := fun earlier later => Probe.ofExcept (CollectionTime.usage earlier later) }

/-- The way to measure the usage of the host. -/
def ofHost : Probe CpuMeasure := do
  match ← platform with
  | .linux => return hostFile
  | .windows => return hostTimes
  | .unsupported => return nothing

/-- The way to measure the waiting for disks. -/
def ofDisks : Probe CpuMeasure := do
  match ← platform with
  | .linux => return diskFile
  | .windows => return diskTimes
  | .unsupported => return nothing

/-- The category of the errors about processes that cannot be inspected. -/
def processCategory : String := "Error"

/-- The way to measure the usage of a process, by default the own one. By its times, the process has to be
open to inspection. -/
def ofProcess (id? : Option Int) : Probe CpuMeasure := do
  let host ← Probe.host
  let id := id?.getD host.processId
  match ← platform with
  | .linux => return processFile id
  | .windows =>
    if host.processHidden then throw (.reported (.of processCategory [])) else return processTimes id
  | .unsupported => return nothing

end CpuMeasure

/-- Whether the host offers any way to measure CPU usage. -/
def cpuSupported : Probe Bool := return (← platform) ≠ .unsupported

/-- A way to measure together with what the last reading left behind. -/
structure CpuMeter where
  measure : CpuMeasure
  /-- The capture with which the next reading compares. -/
  previous : Option measure.Capture

namespace CpuMeter

/-- A meter that was not read yet. -/
def of (measure : CpuMeasure) : CpuMeter := ⟨measure, none⟩

/-- Whether the meter measures anything. -/
def supported (meter : CpuMeter) : Bool := meter.measure ≠ .nothing

/-- Reads a meter: the meter afterwards, and the usage since the reading before. -/
def read (meter : CpuMeter) : Probe (CpuMeter × Option CpuUsage) := do
  let reading ← CpuGauge.read meter.measure.gauge meter.previous
  return (⟨meter.measure, reading.previous⟩, reading.usage)

end CpuMeter

end HostWatch
