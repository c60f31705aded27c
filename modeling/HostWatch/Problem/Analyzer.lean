/-
**The analyzer.**

The analyzer asks all rules and makes a report of each answer, always in the same order. A rule that fails
reports that it failed, and no problem. Two texts are made outside the guard, and fail the whole analysis when
they cannot be made: the description of a rule, with a time or a threshold in it that is too long, and what
is said of the failure of a rule.

* `Analyzer.description` describes a rule.
* `Analyzer.guarded` asks a rule under the guard.
* `Analyzer.problems` makes the reports.
-/
import HostWatch.Problem.Report
import HostWatch.Problem.Rules

namespace HostWatch

/-- What the rules are about. -/
inductive Topic where
  | deadlock
  | gcCpu
  | cpu
  | memory
  /-- Memory pools that stay full after garbage collections. -/
  | cleanup
  | freeSpace
  | hostMemory
deriving DecidableEq

namespace Topic

/-- All topics, in the order of the reports. -/
def all : List Topic := [deadlock, gcCpu, cpu, memory, cleanup, freeSpace, hostMemory]

/-- The title of the reports on a topic. -/
def title : Topic → String
  | deadlock => "Deadlocked threads"
  | gcCpu => "GC CPU Usage"
  | cpu => "CPU Usage"
  | memory => "Memory usage"
  | cleanup => "GC Memory cleanup"
  | freeSpace => "Free disk space"
  | hostMemory => "Host Virtual Mem"

end Topic

/-- What decides the reports besides the samples and the host. -/
structure Analyzer where
  config : Config
  plan : SamplingPlan
  sources : Sources
  registry : LockRegistry

namespace Analyzer

/-- The text of the time that a number of samples takes, in seconds. -/
def spanText (plan : SamplingPlan) (samples : Int) : Except ArithmeticFault String := do
  let interval ← plan.intervalSeconds
  return (← samplesInSeconds samples interval).sixDigitText

/-- The description of the rule on a topic. The thresholds in percent have few digits. -/
def description (config : Config) (plan : SamplingPlan) : Topic → Except Failure String
  | .deadlock =>
    .ok ("Triggered when there are some deadlocked threads. Finds cycles of threads that are in " ++
      "deadlock waiting to acquire tracked locks (both reentrant and plain ones).")
  | .gcCpu => do
    let span ← (spanText plan (config.integer .gcCpuSamples)).mapError Failure.arithmetic
    return s!"Triggered when GC uses {config.integer .gcCpuThreshold}% or more of CPU " ++
      s!"continuously for {span} seconds"
  | .cpu => do
    let span ← (spanText plan (config.integer .cpuSamples)).mapError Failure.arithmetic
    return s!"Triggered when a CPU core is used for {config.integer .cpuThreshold}% or more, " ++
      s!"continuously for {span} seconds"
  | .memory =>
    .ok ("Triggered: never. Reports memory pools which are at least " ++
      s!"{config.integer .poolThreshold}% full")
  | .cleanup =>
    .ok ("Triggered when GC cannot make available more than " ++
      s!"{100 - config.integer .afterCollectionThreshold}% of memory")
  | .freeSpace => do
    let least ← (Text.decimal (config.integer .minFreeDiskSpace)).mapError Failure.numeral
    return s!"Triggered when there is less than {least}Mb of free space on some drive"
  | .hostMemory =>
    .ok s!"Triggered when host uses {config.integer .virtualMemoryThreshold}% or more virtual memory"

def finding (analyzer : Analyzer) (samples : List Sample) : Topic → Probe Finding
  | .deadlock => Rules.deadlockFinding analyzer.registry
  | .gcCpu => do
    Probe.ofExcept ((Rules.gcCpuFinding analyzer.config (← interval) samples).mapError Failure.numeral)
  | .cpu => do
    Probe.ofExcept ((Rules.cpuFinding analyzer.config (← interval) samples).mapError Failure.numeral)
  | .memory => Rules.memoryFinding analyzer.config analyzer.sources
  | .cleanup => Rules.cleanupFinding analyzer.config analyzer.sources
  | .freeSpace => Rules.freeSpaceFinding analyzer.config analyzer.sources
  | .hostMemory => Rules.hostMemoryFinding analyzer.config analyzer.sources
where
  interval : Probe Binary64 :=
    Probe.ofExcept (analyzer.plan.intervalSeconds.mapError Failure.arithmetic)

/-- The finding that stands for a rule that failed. -/
def failedFinding (failure : Failure) : Except NumeralFault Finding := do
  return ⟨false, "Failed to evaluate: " ++ (← failure.message)⟩

/-- The finding of a rule, or the one that stands for its failure. -/
def guarded (rule : Probe Finding) : Probe Finding := do
  match ← Probe.outcome rule with
  | .ok finding => return finding
  | .error failure => Probe.ofExcept ((failedFinding failure).mapError Failure.numeral)

def report (analyzer : Analyzer) (samples : List Sample) (topic : Topic) : Probe Report := do
  let description ← Probe.ofExcept (description analyzer.config analyzer.plan topic)
  let finding ← guarded (analyzer.finding samples topic)
  return ⟨topic.title, finding.flagged, finding.diagnosis, description, (← Probe.host).time⟩

def problems (analyzer : Analyzer) (samples : List Sample) : Probe (List Report) :=
  Topic.all.mapM (analyzer.report samples)

end Analyzer

end HostWatch
