/-
**The memory of a host.**

The figures come from a file, which tells buffers and caches apart, or from counters, which do not, or
from nowhere. Which of them it is, is found out once. A figure that cannot be had is not available.

* `MemorySource.physical` and `MemorySource.swap` give the usage, in bytes.
* `memorySource` is the first source that works.
-/
import HostWatch.Host.Machine
import HostWatch.Host.Properties

namespace HostWatch

/-- The usage with the given figures, its initial size unknown. -/
def usageOf (used committed max : Int) : Except Failure MemoryUsage :=
  (MemoryUsage.of? (-1) used committed max).mapError Failure.memory

/-- The sizes in the file with the figures of the memory, if it can be read and holds any. -/
def Host.memoryProperties? (host : Host) : Option Properties :=
  (host.memoryFile.read?.map Properties.parse).filter fun properties => !properties.isEmpty

/-- Several sizes of a file, each of which may be missing; nothing when one of them is no size. -/
def Properties.sizes? (properties : Properties) (names : List String) :
    Option (List (Option Int)) :=
  match names.mapM fun name => properties.bytes? name with
  | .ok sizes => some sizes
  | .error _ => none

/-- The physical memory by the sizes of a file. What is used leaves out buffers and caches, when both
are known; what is committed includes them. -/
def Properties.physicalMemory (properties : Properties) : Except Failure (Option MemoryUsage) :=
  match properties.sizes? ["MemTotal", "MemFree", "Buffers", "Cached"] with
  | some [some total, some free, buffers, cached] =>
    let committed := total - free
    let used := match buffers, cached with
      | some b, some c => max 0 (committed - b - c)
      | _, _ => committed
    (usageOf used committed total).map some
  | _ => .ok none

def Properties.swap (properties : Properties) : Except Failure (Option MemoryUsage) :=
  match properties.sizes? ["SwapTotal", "SwapFree"] with
  | some [some total, some free] => (usageOf (total - free) (total - free) total).map some
  | _ => .ok none

/-- The usage of a memory by counters: what is used is forced into the total. -/
def usageByCounters (total used : Int) : Except Failure MemoryUsage :=
  let within := max 0 (min total used)
  usageOf within within total

namespace MemorySource

def physicalOf (source : MemorySource) (host : Host) : Except Failure (Option MemoryUsage) :=
  match source with
  | file =>
    match host.memoryProperties? with
    | some properties => properties.physicalMemory
    | .none => .ok .none
  | counters =>
    match host.physicalMemory with
    | some (total, available) => (usageByCounters total (total - available)).map some
    | .none => .ok .none
  | none => .ok .none

def swapOf (source : MemorySource) (host : Host) : Except Failure (Option MemoryUsage) :=
  match source with
  | file =>
    match host.memoryProperties? with
    | some properties => properties.swap
    | .none => .ok .none
  | counters =>
    match host.swap with
    | some (total, used) => (usageByCounters total used).map some
    | .none => .ok .none
  | none => .ok .none

def physical (source : MemorySource) : Probe (Option MemoryUsage) := do
  Probe.ofExcept (source.physicalOf (← Probe.host))

def swap (source : MemorySource) : Probe (Option MemoryUsage) := do
  Probe.ofExcept (source.swapOf (← Probe.host))

end MemorySource

/-- Finds the first source of the figures of the memory that works. -/
def findMemorySource : Probe MemorySource := do
  let file ← match ← platform with
    | .linux => pure (← Probe.host).memoryProperties?.isSome
    | _ => pure false
  if file then return .file
  else if (← MemorySource.counters.physical).isSome then return .counters
  else return .none

/-- Where the figures of the memory come from. -/
def memorySource : Probe MemorySource :=
  Probe.once Machine.memorySource (fun fact machine => { machine with memorySource := some fact })
    findMemorySource

end HostWatch
