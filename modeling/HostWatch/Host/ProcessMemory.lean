/-
**The memory of the own process.**

A process may use as much memory as the limit of its address space allows, or else the limit of its
group. The first of the two group files that holds a number decides, and a number beyond all memories
counts as no limit.

* `memoryLimit` is the limit, found out once.
* `processMemory` and `memoryPools` give the usage under the limit.
-/
import HostWatch.Host.Memory
import HostWatch.Sample.Basic
import HostWatch.Text.Digit

namespace HostWatch

/-- The least number that counts as no limit. -/
def noLimit : Int := Nat.pow 2 62

/-- The limit of the group of the process, if it has one. -/
def groupLimit : List HostFile → Except Failure (Option Int)
  | [] => .ok none
  | file :: rest =>
    match file.read? with
    | none => groupLimit rest
    | some text =>
      let trimmed := Text.trimmed text
      if Text.isAllDigits trimmed then do
        let limit ← readInteger trimmed
        return if limit < noLimit then some limit else none
      else groupLimit rest

/-- The limit of the address space of the process, if the host tells one. -/
def Host.addressLimit? (host : Host) : Option Int :=
  if host.processHidden then none
  else match host.addressLimit with
    | some (.bytes n) => if 0 < n then some n else none
    | _ => none

/-- The limit on the memory of the process, `-1` without one. -/
def Host.findMemoryLimit (host : Host) : Except Failure Int :=
  match (if host.linuxDevices then host.addressLimit? else none) with
  | some limit => .ok limit
  | none => do return (← groupLimit host.groupLimits).getD (-1)

/-- The limit on the memory of the process, `-1` without one. -/
def memoryLimit : Probe Int :=
  Probe.once Machine.memoryLimit (fun fact machine => { machine with memoryLimit := some fact }) do
    Probe.ofExcept (← Probe.host).findMemoryLimit

/-- The resident memory of the process, if it can be inspected. -/
def Host.resident? (host : Host) : Option Int :=
  if host.processHidden then none else host.resident

/-- The usage of some memory under a limit; a limit below what is used is none. -/
def usageUnder (limit used : Int) : Except Failure MemoryUsage :=
  usageOf used used (if 0 ≤ limit ∧ limit < used then -1 else limit)

/-- The resident memory of the process under its limit. -/
def processMemory : Probe (Option MemoryUsage) := do
  match (← Probe.host).resident? with
  | none => return none
  | some resident =>
    let limit ← memoryLimit
    return some (← Probe.ofExcept (usageUnder limit resident))

def tracedMemory : Probe (Option MemoryUsage) := do
  match (← Probe.host).traced with
  | none => return none
  | some (current, peak) =>
    return some (← Probe.ofExcept (usageOf current (max current peak) (-1)))

/-- A memory whose usage is watched. -/
structure MemoryPool where
  name : String
  usage : Option MemoryUsage
  /-- The usage after the last full garbage collection. -/
  afterCollection : Option MemoryUsage
  /-- Whether the usage can be compared with a threshold. -/
  comparable : Bool

/-- The bound of the memory pool of the process: its limit, or else the physical memory. -/
def poolLimit : Probe Int := do
  let limit ← memoryLimit
  if 0 ≤ limit then return limit
  else match ← (← memorySource).physical with
    | none => return -1
    | some usage => return usage.max

/-- The pool of the memory of the process, given its bound, the resident memory and the resident memory
after the last full garbage collection. -/
def poolOf (limit resident : Int) (afterFull : Option Int) : Except Failure MemoryPool := do
  let usage ← usageUnder limit resident
  let afterCollection ← match afterFull with
    | none => .ok none
    | some after => (usageUnder limit after).map some
  return ⟨MemoryKind.process.title, some usage, afterCollection, 0 < limit⟩

def memoryPools : Probe (List MemoryPool) := do
  let limit ← poolLimit
  match (← Probe.host).resident? with
  | none => return []
  | some resident =>
    let collections ← sharedCollections
    return [← Probe.ofExcept (poolOf limit resident collections.residentAfterFull)]

end HostWatch
