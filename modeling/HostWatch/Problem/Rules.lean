/-
**The rules.**

Each rule finds a problem or does not, and says what it found. The rules on CPU usage look at the samples,
the others at the live host, through what `Sources` offers. What a rule looks at may fail, and so does
the rule, apart from the free space of one drive, which only that drive lacks then. A rule fails as well when
an integer in what it says is too long to be written.

* `gcCpuFinding` and `cpuFinding` look for long runs of high usage.
* `memoryFinding`, `cleanupFinding`, `freeSpaceFinding` and `hostMemoryFinding` compare with thresholds.
* `deadlockFinding` tells the threads that wait for each other.
-/
import HostWatch.Config.Basic
import HostWatch.Config.SamplingPlan
import HostWatch.Host.Drives
import HostWatch.Host.LiveThreads
import HostWatch.Host.ProcessMemory
import HostWatch.Problem.RunStats
import HostWatch.Thread.Text

namespace HostWatch

/-- What a rule found. -/
structure Finding where
  flagged : Bool
  diagnosis : String

/-- What the rules look at besides the samples. -/
structure Sources where
  pools : Probe (List MemoryPool)
  processMemory : Probe (Option MemoryUsage)
  mountPoints : Probe (List String)
  /-- The free space at a mount point, in mebibytes. -/
  freeSpace : String → Probe Int
  physicalMemory : Probe (Option MemoryUsage)
  swap : Probe (Option MemoryUsage)

/-- The sources that a host itself offers, its memory by one source. -/
def Sources.ofHost (memory : MemorySource) : Sources where
  pools := memoryPools
  processMemory := HostWatch.processMemory
  mountPoints := return (← localDrives).map Drive.mountPoint
  freeSpace := freeMebibytes
  physicalMemory := memory.physical
  swap := memory.swap

/-- The form of a failure that names the category of an error reported from outside. -/
def Failure.written : Failure → Except NumeralFault String
  | .reported error => error.written
  | failure => failure.message

namespace Rules

def joinLines (lines : List String) : String := "\n".intercalate lines

/-- What the rules on CPU usage say before the first sample. -/
def noData : String := "No data yet"

/-- What a rule on CPU usage found: a run that counts, or the average of all samples. -/
def runFinding (stats : RunStats) (threshold : Int) (spender averaged : String) :
    Except NumeralFault Finding := do
  if stats.triggered then
    let average ← Text.decimal stats.run.average
    return ⟨true, s!"{spender} spent more than {threshold}% (avg. {average}%) of CPU for " ++
      s!"{stats.runSeconds.sixDigitText} seconds"⟩
  else
    let average ← Text.decimal stats.average
    return ⟨false, s!"Avg. {averaged} usage last {stats.windowSeconds.sixDigitText} seconds: " ++
      s!"{average}%"⟩

/-- Looks for a long run of high CPU usage by garbage collections. -/
def gcCpuFinding (config : Config) (interval : Binary64) (samples : List Sample) :
    Except NumeralFault Finding :=
  if samples.isEmpty then .ok ⟨false, noData⟩
  else
    let threshold := config.integer .gcCpuThreshold
    runFinding (RunStats.of (samples.map Sample.gcCpu) threshold (config.integer .gcCpuSamples)
      interval) threshold "GC" "GC CPU"

/-- Looks for a long run of high usage of the busiest core. -/
def cpuFinding (config : Config) (interval : Binary64) (samples : List Sample) :
    Except NumeralFault Finding :=
  if samples.isEmpty then .ok ⟨false, noData⟩
  else
    let threshold := config.integer .cpuThreshold
    runFinding (RunStats.of (samples.map fun s => s.cpu.busiest) threshold
      (config.integer .cpuSamples) interval) threshold "A CPU core" "max CPU core"

/-- How full a pool is by one of its usages, in percent, if that can be compared with a threshold. -/
def fullness? (pool : MemoryPool) (usage : Option MemoryUsage) : Option Int :=
  if pool.comparable then usage.bind MemoryUsage.usedPercent? else none

/-- The lines about the pools that are at least as full as a threshold, by one of their usages. -/
def fullPools (pools : List MemoryPool) (usage : MemoryPool → Option MemoryUsage) (threshold : Int)
    (line : String → Int → String) : List String :=
  pools.filterMap fun pool => do
    let percent ← fullness? pool (usage pool)
    if threshold ≤ percent then some (line pool.name percent) else none

/-- What a rule on memory pools says when there are none. -/
def noPools : Finding := ⟨false, "INFO: No memory pool information"⟩

/-- The advice on pools that are full. -/
def fullAdvice : List String := ["",
  "Try performing a GC: this should decrease the memory usage. " ++
    "If not, you may need to increase the memory or check for memory leaks"]

/-- Tells the memory pools that are full; this is no problem yet. -/
def memoryFinding (config : Config) (sources : Sources) : Probe Finding := do
  let pools ← sources.pools
  if pools.isEmpty then return noPools
  let lines := fullPools pools MemoryPool.usage (config.integer .poolThreshold)
    fun name percent => s!"INFO: Pool [{name}] is now {percent}% full"
  if lines.isEmpty then
    return ⟨false, "Process memory usage: " ++ MemoryUsage.formatPercent (← sources.processMemory)⟩
  return ⟨false, joinLines (lines ++ fullAdvice)⟩

/-- The advice on pools that stay full. -/
def cleanupAdvice : List String :=
  ["", "You may need to increase the memory or check for memory leaks"]

/-- What the rule on full garbage collections finds for some pools. -/
def cleanupFindingOf (config : Config) (pools : List MemoryPool) : Finding :=
  let lines := fullPools pools MemoryPool.afterCollection (config.integer .afterCollectionThreshold)
    fun name percent => s!"Pool [{name}] is {percent}% full after GC"
  if pools.isEmpty then noPools
  else if lines.isEmpty then ⟨false, "OK"⟩
  else ⟨true, joinLines (lines ++ cleanupAdvice)⟩

/-- Tells the memory pools that stay full after a full garbage collection. -/
def cleanupFinding (config : Config) (sources : Sources) : Probe Finding := do
  return cleanupFindingOf config (← sources.pools)

/-- What is found on one drive, given its free space or the failure to tell it. -/
def driveFinding (config : Config) (mountPoint : String) :
    Except Failure Int → Except NumeralFault Finding
  | .error failure => do
    let text ← failure.written
    return ⟨false, s!"Failed to get free space on {mountPoint}: {text}"⟩
  | .ok free => do
    let low := free < config.integer .minFreeDiskSpace
    let text ← Text.decimal free
    return ⟨low, (if low then "Low disk space: " else "") ++ s!"{mountPoint}  {text}mB free"⟩

/-- Tells the free space of each drive. A drive that cannot be told of ends the rule. -/
def freeSpaceFinding (config : Config) (sources : Sources) : Probe Finding := do
  let findings ← (← sources.mountPoints).mapM fun mountPoint => do
    let free ← Probe.outcome (sources.freeSpace mountPoint)
    Probe.ofExcept ((driveFinding config mountPoint free).mapError Failure.numeral)
  let lines := Text.trim (joinLines (findings.map Finding.diagnosis))
  return ⟨findings.any Finding.flagged, if lines = "" then "OK" else lines⟩

/-- What is found on the memory of the host, given its physical memory with a known size, and its swap. -/
def hostMemoryFindingOf (config : Config) (physical : MemoryUsage) (swap : Option MemoryUsage) :
    Finding :=
  let tellsCaches := physical.committed ≠ physical.used
  let (total, used) := match swap with
    | some swap =>
      if 0 < swap.max then (physical.max + swap.max, physical.used + swap.used)
      else (physical.max, physical.used)
    | none => (physical.max, physical.used)
  let percent := used * 100 / total
  let committedPercent := physical.committed * 100 / physical.max
  let usedPercent := physical.used * 100 / physical.max
  ⟨tellsCaches && config.integer .virtualMemoryThreshold ≤ percent,
    joinLines ((if tellsCaches then [] else ["buffers/cache detection not supported, disabled"]) ++ [
      s!"Physical memory used: {committedPercent}%, minus buffers/cache: {usedPercent}%",
      "Swap used: " ++ MemoryUsage.formatPercent swap,
      s!"Total virtual memory usage: {percent}%"])⟩

/-- Tells the memory of the host, physical memory and swap together. Without knowing what caches hold,
high usage is no problem. -/
def hostMemoryFinding (config : Config) (sources : Sources) : Probe Finding := do
  match ← sources.physicalMemory with
  | none => return unsupported
  | some physical =>
    if physical.max ≤ 0 then return unsupported
    else return hostMemoryFindingOf config physical (← sources.swap)
where
  /-- What the rule says where the memory of the host is not known. -/
  unsupported : Finding := ⟨false, "Host memory reporting unsupported on this platform"⟩

/-- The text about one deadlocked thread, which may have ended meanwhile. -/
def deadlockText (id : Int) : Option ThreadInfo → String
  | none => s!"Locked thread: {ThreadInfo.idText id} is no longer alive\n"
  | some info => s!"Locked thread: {info.metadata}\nStacktrace:\n{info.stackTrace}"

/-- Tells the threads that wait for each other. -/
def deadlockFinding (registry : LockRegistry) : Probe Finding := do
  let deadlocked := registry.deadlocked
  if deadlocked.isEmpty then return ⟨false, "None"⟩
  let texts ← deadlocked.mapM fun id => return deadlockText id (← dumpThread registry id)
  return ⟨true, Text.trimEnd (String.join texts)⟩

end Rules

end HostWatch
