/-
**The sampler.**

The sampler keeps two histories: one of samples, which measure process and host, and one of sets of
reports, which an analyst finds in the samples. The first set that flags a problem is kept, and from then
on each set that differs from the last kept one in what it flags. A set that is kept is also handed over to
a recipient.

Whatever a measurement found out before it failed stays known to the next one.

* `Sampler.takeSample` measures everything once.
* `Sampler.sample` and `Sampler.diagnose` add to the histories.
* `Sampler.keeps` decides which sets of reports are kept.
-/
import HostWatch.History
import HostWatch.Host.CpuMeter
import HostWatch.Host.LiveThreads
import HostWatch.Host.ProcessMemory
import HostWatch.Sampler.Analyst
import HostWatch.Sampler.Recipient
import HostWatch.Sample.Basic

namespace HostWatch

/-- The CPU usages in a sample. -/
inductive CpuFigure where
  | collections
  | host
  | process
  | disks
deriving DecidableEq

/-- A sampler. -/
structure Sampler where
  samplePlan : SamplingPlan
  problemPlan : SamplingPlan
  samples : History Sample
  problems : History (List Report)
  /-- How many samples were taken. -/
  taken : Nat
  /-- How many samples there were at each look at them. -/
  looks : List Nat
  meters : CpuFigure → CpuMeter
  /-- Where the figures of the memory come from. -/
  memory : MemorySource
  registry : LockRegistry
  /-- Who looks for problems, if someone does. -/
  analyst? : Option Analyst
  /-- Who receives the sets that are kept, if someone does. -/
  recipient? : Option Recipient
  machine : Machine

/-- A computation of a sampler, which may fail; what it did before that stays. -/
abbrev Sampling := ExceptT Failure (StateM Sampler)

def Sampling.look {α : Type} (probe : Probe α) : Sampling α := do
  let sampler ← get
  let (outcome, machine) := probe.run.run sampler.machine
  set { sampler with machine := machine }
  ofExcept outcome

namespace Sampler

open Sampling

/-! ### A new sampler -/

/-- The meters for the CPU usages of a machine. -/
def findMeters : Probe (CpuFigure → CpuMeter) := do
  let host ← CpuMeasure.ofHost
  let process ← CpuMeasure.ofProcess none
  let disks ← CpuMeasure.ofDisks
  let _ ← sharedCollections
  return fun figure => CpuMeter.of <| match figure with
    | .collections => .collections
    | .host => host
    | .process => process
    | .disks => disks

/-- The sampler with two plans, which an analyst follows. -/
def of (samplePlan problemPlan : SamplingPlan) (meters : CpuFigure → CpuMeter) (memory : MemorySource)
    (registry : LockRegistry) (analyst? : Option Analyst) (recipient? : Option Recipient)
    (machine : Machine) : Sampler where
  samplePlan := samplePlan
  problemPlan := problemPlan
  samples := .ofCapacity samplePlan.historyLength samplePlan.one_le_historyLength
  problems := .ofCapacity problemPlan.historyLength problemPlan.one_le_historyLength
  taken := 0
  looks := []
  meters := meters
  memory := memory
  registry := registry
  analyst? := analyst?.map fun analyst => analyst.follow samplePlan
  recipient? := recipient?
  machine := machine

/-- The sampler of the machine, with an analyst who may look at the same figures of the memory. -/
def find (samplePlan problemPlan : SamplingPlan) (registry : LockRegistry)
    (analyst? : MemorySource → Option Analyst) (recipient? : Option Recipient) : Probe Sampler := do
  let memory ← memorySource
  let meters ← findMeters
  return of samplePlan problemPlan meters memory registry (analyst? memory) recipient? (← get)

def configure (sampler : Sampler) (config : Config) : Sampler :=
  { sampler with
    analyst? := sampler.analyst?.map fun analyst => analyst.configure config
    recipient? := sampler.recipient?.map (Recipient.configure config) }

/-! ### Samples -/

def readMeter (figure : CpuFigure) : Sampling (Option CpuUsage) := do
  let (meter, usage) ← look ((← get).meters figure).read
  modify fun sampler => { sampler with
    meters := fun other => if other = figure then meter else sampler.meters other }
  return usage

/-- The average of a usage, none for one that is not known. -/
def averageOf (usage : Option CpuUsage) : Int := (usage.map CpuUsage.average).getD 0

/-- Measures everything once. -/
def takeSample : Sampling Sample := do
  let collecting ← readMeter .collections
  let host ← readMeter .host
  let process ← readMeter .process
  let disks ← readMeter .disks
  let sampler ← get
  let own ← look processMemory
  let traced ← look tracedMemory
  let physical ← look sampler.memory.physical
  let swap ← look sampler.memory.swap
  let threads ← look (takeSnapshot sampler.registry)
  let modules ← look do return (← Probe.host).modules
  let time ← look do return (← Probe.host).time
  let draft := SampleDraft.empty
    |>.setGcCpu (averageOf collecting)
    |>.setCpu host
    |>.setProcessCpu (some (averageOf process))
    |>.setWaitingCpu (some (averageOf disks))
    |>.setMemory .process own
    |>.setMemory .traced traced
    |>.setMemory .physical physical
    |>.setMemory .swap swap
    |>.setThreads threads
    |>.setModules modules
    |>.setTime time
  ofExcept draft.complete

def record (sampler : Sampler) (sample : Sample) : Sampler :=
  { sampler with samples := sampler.samples.add sample, taken := sampler.taken + 1 }

def sample : Sampling Unit := do
  let sample ← takeSample
  modify fun sampler => sampler.record sample

/-! ### Problems -/

/-- Whether a set of reports is kept after the last one that was. -/
def keeps (last? : Option (List Report)) (reports : List Report) : Bool :=
  match last? with
  | none => Report.anyFlagged reports
  | some last => !Report.sameProblems last reports

/-- Keeps a set of reports and hands it over, unless it says the same as the last one. -/
def consider (sampler : Sampler) (reports : List Report) : Sampler :=
  if keeps sampler.problems.newest? reports then
    { sampler with
      problems := sampler.problems.add reports
      recipient? := sampler.recipient?.map (Recipient.enqueue reports) }
  else sampler

/-- Has the samples looked at for problems, if someone does that. -/
def diagnose : Sampling Unit := do
  match (← get).analyst? with
  | none => return
  | some analyst =>
    let samples := (← get).samples.items
    modify fun sampler => { sampler with
      analyst? := some analyst.next, looks := sampler.looks ++ [samples.length] }
    let reports ← look (analyst.problems samples)
    modify fun sampler => sampler.consider reports

end Sampler

end HostWatch
