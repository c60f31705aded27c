/-
**Probing a host.**

A probe looks at a host and may fail. Some facts are found out only once and hold from then on, however
the host changes: a `Machine` is a host with the facts found out so far. A probe that fails leaves its
fact open, so that the next one tries again.

* `Probe.once` finds a fact out, or takes the one known.
* `platform`, `cpuCount`, `clockTicks` and `pageSize` are such facts.
-/
import HostWatch.Host.Collections

namespace HostWatch

/-- The ways in which a host can be measured. -/
inductive Platform where
  | linux
  | windows
  | unsupported
deriving DecidableEq

def Platform.word : Platform → String
  | linux => "linux"
  | windows => "windows"
  | unsupported => "unsupported"

/-- Where the figures of the memory come from. -/
inductive MemorySource where
  /-- From the file with the figures of the memory. -/
  | file
  | counters
  | none
deriving DecidableEq

/-- A host with the facts found out about it. -/
structure Machine where
  host : Host
  platform : Option Platform
  cpuCount : Option Int
  /-- The number of clock ticks in a second. -/
  clockTicks : Option Int
  pageSize : Option Int
  /-- Where the figures of the memory come from. -/
  memorySource : Option MemorySource
  /-- The limit on the memory of the own process. -/
  memoryLimit : Option Int
  /-- The garbage collections that all parts share. -/
  collections : Option Collections

/-- The machine of a host about which nothing was found out. -/
def Machine.ofHost (host : Host) : Machine :=
  ⟨host, none, none, none, none, none, none, none⟩

/-- A computation that looks at a machine and may fail. -/
abbrev Probe (α : Type) := ExceptT Failure (StateM Machine) α

namespace Probe

def host : Probe Host := return (← get).host

/-- A figure that can be had, or the failure to have it. -/
def ofExcept {α : Type} : Except Failure α → Probe α
  | .ok a => pure a
  | .error failure => throw failure

/-- The outcome of a probe, which itself does not fail. -/
def outcome {α : Type} (probe : Probe α) : Probe (Except Failure α) :=
  tryCatch (do return .ok (← probe)) fun failure => pure (.error failure)

/-- A fact that is known, or else found out and kept. -/
def once {α : Type} (known : Machine → Option α) (keep : α → Machine → Machine)
    (find : Probe α) : Probe α := do
  match known (← get) with
  | some fact => return fact
  | none =>
    let fact ← find
    modify (keep fact)
    return fact

end Probe

def Host.findPlatform (host : Host) : Platform :=
  if host.system.startsWith "linux" && host.statReadable then .linux
  else if host.windowsCounters then .windows
  else .unsupported

def platform : Probe Platform :=
  Probe.once Machine.platform (fun fact machine => { machine with platform := some fact }) do
    return (← Probe.host).findPlatform

/-- The number of CPUs of a host: the first count that is known and not zero, and else one. -/
def Host.findCpuCount (host : Host) : Int :=
  ((host.cpus.filter (· ≠ 0)).or (host.otherCpus.filter (· ≠ 0))).getD 1

def cpuCount : Probe Int :=
  Probe.once Machine.cpuCount (fun fact machine => { machine with cpuCount := some fact }) do
    return (← Probe.host).findCpuCount

/-- A figure of the system, or a fallback when the system does not tell it. -/
def systemFigure (reading : Reading Int) (fallback : Int) : Probe Int :=
  match reading with
  | .ok n => pure n
  | .error error =>
    if error.isWrongValue || error.isSystem || error.isMissingPart then pure fallback
    else throw (.reported error)

/-- The number of clock ticks in a second, one hundred when it is not known. -/
def clockTicks : Probe Int :=
  Probe.once Machine.clockTicks (fun fact machine => { machine with clockTicks := some fact }) do
    systemFigure (← Probe.host).clockTicks 100

/-- The size of a page of memory, negative when it is not known. -/
def pageSize : Probe Int :=
  Probe.once Machine.pageSize (fun fact machine => { machine with pageSize := some fact }) do
    systemFigure (← Probe.host).pageSize (-1)

/-- The garbage collections that all parts share, watched from their first use on. -/
def sharedCollections : Probe Collections :=
  Probe.once Machine.collections (fun fact machine => { machine with collections := some fact }) do
    return Collections.unwatched.watch (← Probe.host)

/-- Takes in an event of a garbage collection, if the shared collections are in use. -/
def collectionEvent (phase : String) (generation : Option Int) : Probe Unit := do
  let machine ← get
  match machine.collections with
  | none => return
  | some collections =>
    let clock := machine.host.clock * nanosPerMilli
    let (outcome, next) := collections.event phase generation clock machine.host.resident
    set { machine with collections := some next }
    Probe.ofExcept outcome

end HostWatch
