/-
**Tables of samples.**

A table has a row for each figure and a column for each sample, the oldest sample first.
-/
import HostWatch.Sample.Basic

namespace HostWatch

/-- One row of a table. -/
structure Row (α : Type) where
  title : String
  cells : List α

/-- The table of the figures of host and process. -/
def figureTable (samples : List Sample) : List (Row Int) := [
  ⟨"Host CPU %", samples.map fun s => s.cpu.average⟩,
  ⟨"Max core CPU %", samples.map fun s => s.cpu.busiest⟩,
  ⟨"Host IO wait %", samples.map fun s => s.waitingCpu⟩,
  ⟨"Process CPU %", samples.map fun s => s.processCpu⟩,
  ⟨"GC CPU %", samples.map fun s => s.gcCpu⟩,
  ⟨"Threads", samples.map fun s => s.threads.count⟩,
  ⟨"Daemon threads", samples.map fun s => s.threads.daemons⟩,
  ⟨"Modules loaded", samples.map fun s => s.modules⟩]

/-- The table of the memories: what is used, in percent, where that is known. -/
def memoryTable (samples : List Sample) : List (Row (Option Int)) :=
  MemoryKind.all.map fun kind =>
    ⟨kind.title, samples.map fun s => (s.memory kind).bind MemoryUsage.usedPercent?⟩

end HostWatch
