/-
**Samples.**

A sample is what one measurement of host and process found. It is put together step by step in a
`SampleDraft`, which can be completed once its time and its threads are set.

* `SampleDraft.complete` makes the sample, its percentages within zero and one hundred.
-/
import HostWatch.Failure
import HostWatch.Thread.Basic

namespace HostWatch

/-- The memories of which a sample keeps the usage. -/
inductive MemoryKind where
  | process
  | traced
  | physical
  | swap
deriving DecidableEq

namespace MemoryKind

/-- All kinds of memory, in the order of the tables. -/
def all : List MemoryKind := [process, traced, physical, swap]

def title : MemoryKind → String
  | process => "Process memory"
  | traced => "Traced allocations"
  | physical => "OS physical memory"
  | swap => "OS swap"

end MemoryKind

/-- The usage of each kind of memory, nothing for one that is not available. -/
abbrev MemoryFigures := MemoryKind → Option MemoryUsage

/-- What one measurement of host and process found. -/
structure Sample where
  /-- The moment, in milliseconds. -/
  time : Int
  /-- The share of time spent on collecting garbage, in percent. -/
  gcCpu : Int
  /-- The usage of the memories, in mebibytes. -/
  memory : MemoryFigures
  threads : ThreadSnapshot
  modules : Int
  cpu : CpuUsage
  /-- The CPU usage of the process, in percent. -/
  processCpu : Int
  /-- The share of time that the host waits for input and output, in percent. -/
  waitingCpu : Int

/-- A sample in the making. -/
structure SampleDraft where
  /-- The moment, once it is set. -/
  time : Option Int
  /-- The share of time spent on collecting garbage. -/
  gcCpu : Int
  /-- The usage of the memories, in mebibytes. -/
  memory : MemoryFigures
  /-- The threads, once they are set. -/
  threads : Option ThreadSnapshot
  modules : Int
  cpu : CpuUsage
  processCpu : Int
  /-- The share of time that the host waits for input and output. -/
  waitingCpu : Int

namespace SampleDraft

/-- The draft in which nothing is set. -/
def empty : SampleDraft := ⟨none, 0, fun _ => none, none, 0, .idle, 0, 0⟩

def setTime (draft : SampleDraft) (time : Int) : SampleDraft :=
  { draft with time := some time }

/-- Sets the share of time spent on collecting garbage, clamped. -/
def setGcCpu (draft : SampleDraft) (percent : Int) : SampleDraft :=
  { draft with gcCpu := clampPercent percent }

/-- Sets the usage of one memory, given in bytes. -/
def setMemory (draft : SampleDraft) (kind : MemoryKind) (usage : Option MemoryUsage) :
    SampleDraft :=
  { draft with memory := fun other =>
      if other = kind then usage.map MemoryUsage.inMebibytes else draft.memory other }

def setThreads (draft : SampleDraft) (threads : ThreadSnapshot) : SampleDraft :=
  { draft with threads := some threads }

def setModules (draft : SampleDraft) (count : Int) : SampleDraft :=
  { draft with modules := count }

/-- Sets the CPU usage of the host; one that is not known counts as none. -/
def setCpu (draft : SampleDraft) (usage : Option CpuUsage) : SampleDraft :=
  { draft with cpu := usage.getD .idle }

/-- Sets the CPU usage of the process, clamped; one that is not known counts as none. -/
def setProcessCpu (draft : SampleDraft) (percent : Option Int) : SampleDraft :=
  { draft with processCpu := clampPercent (percent.getD 0) }

/-- Sets the share of time waiting, clamped; one that is not known counts as none. -/
def setWaitingCpu (draft : SampleDraft) (percent : Option Int) : SampleDraft :=
  { draft with waitingCpu := clampPercent (percent.getD 0) }

/-- The sample of a draft, whose time and threads have to be set. -/
def complete (draft : SampleDraft) : Except Failure Sample :=
  match draft.time, draft.threads with
  | none, _ => .error .missingSampleTime
  | some _, none => .error .missingThreads
  | some time, some threads =>
    .ok ⟨time, draft.gcCpu, draft.memory, threads, draft.modules, draft.cpu, draft.processCpu,
      draft.waitingCpu⟩

end SampleDraft

end HostWatch
