/-
**Memories and threads in a measurement.**

A measurement asks for the usage of four memories and for a snapshot of the threads. Some of these probes may
fail; what they answer when they do not is bound by the following.

* `MemoryKind.probe`: the four probes for memories.
* `MemoryKind.yields_probe`: **no usage tells an initial size**, by cases on the memories.
* `MemoryKind.outcome_probe_congr`: a probe for a memory that is not that of the process depends on the host alone.
* `ThreadSnapshot.Counts`, `yields_takeSnapshot`: **a snapshot counts its threads**, and those among them that do
  not keep the process alive.
-/

import HostWatch.Host.ProcessMemory
import HostWatch.Proofs.Host.MemoryFigures
import HostWatch.Proofs.Host.Snapshot

namespace HostWatch

open Stateful

/-! ### Memories -/

/-- The initial size of a usage is not known, if there is a usage. -/
def InitUnknown (usage? : Option MemoryUsage) : Prop := ∀ usage, usage? = some usage → usage.init = -1

theorem initUnknown_none : InitUnknown none := nofun

theorem initUnknown_of_usageOf {used committed max : Int} {usage : MemoryUsage}
    (made : usageOf used committed max = .ok usage) : InitUnknown (some usage) := by
  rintro other ⟨⟩
  exact (usageOf_eq_ok_iff.1 made).1

/-- The answer of a source, if it does not fail, tells no initial size. -/
def Unsized (outcome : Except Failure (Option MemoryUsage)) : Prop :=
  ∀ usage?, outcome = .ok usage? → InitUnknown usage?

theorem unsized_none : Unsized (.ok none) := by
  rintro usage? ⟨⟩
  exact initUnknown_none

theorem unsized_usageOf (used committed max : Int) : Unsized ((usageOf used committed max).map some) := by
  intro usage? made
  obtain ⟨usage, accepted, rfl⟩ := exists_of_map_eq_ok made
  exact initUnknown_of_usageOf accepted

theorem Properties.unsized_physicalMemory (properties : Properties) : Unsized properties.physicalMemory := by
  unfold physicalMemory
  split
  · exact unsized_usageOf _ _ _
  · exact unsized_none

theorem Properties.unsized_swap (properties : Properties) : Unsized properties.swap := by
  unfold swap
  split
  · exact unsized_usageOf _ _ _
  · exact unsized_none

theorem MemorySource.unsized_physicalOf (source : MemorySource) (host : Host) :
    Unsized (source.physicalOf host) := by
  unfold physicalOf
  split
  · split
    · exact Properties.unsized_physicalMemory _
    · exact unsized_none
  · split
    · exact unsized_usageOf _ _ _
    · exact unsized_none
  · exact unsized_none

theorem MemorySource.unsized_swapOf (source : MemorySource) (host : Host) : Unsized (source.swapOf host) := by
  unfold swapOf
  split
  · split
    · exact Properties.unsized_swap _
    · exact unsized_none
  · split
    · exact unsized_usageOf _ _ _
    · exact unsized_none
  · exact unsized_none

theorem yields_tracedMemory : Yields InitUnknown tracedMemory := by
  unfold tracedMemory
  refine yields_bind _ fun host => ?_
  split
  · exact yields_pure initUnknown_none
  · refine Yields.bind (Probe.yields_ofExcept fun usage made => made) fun usage made => ?_
    exact yields_pure (initUnknown_of_usageOf made)

theorem yields_processMemory : Yields InitUnknown processMemory := by
  unfold processMemory usageUnder
  refine yields_bind _ fun host => ?_
  split
  · exact yields_pure initUnknown_none
  · refine yields_bind _ fun limit => ?_
    refine Yields.bind (Probe.yields_ofExcept fun usage made => made) fun usage made => ?_
    exact yields_pure (initUnknown_of_usageOf made)

namespace MemoryKind

/-- The probe for the usage of a memory, in bytes. -/
def probe (source : MemorySource) : MemoryKind → Probe (Option MemoryUsage)
  | process => processMemory
  | traced => tracedMemory
  | physical => source.physical
  | swap => source.swap

/-- **No usage tells an initial size.** -/
theorem yields_probe (source : MemorySource) (kind : MemoryKind) : Yields InitUnknown (kind.probe source) := by
  cases kind with
  | process => exact yields_processMemory
  | traced => exact yields_tracedMemory
  | physical => exact yields_bind _ fun host => Probe.yields_ofExcept (source.unsized_physicalOf host)
  | swap => exact yields_bind _ fun host => Probe.yields_ofExcept (source.unsized_swapOf host)

theorem keeps_memoryLimit : Keeps Machine.host memoryLimit := by
  refine Probe.keeps_once _ (fun _ _ => rfl) ?_
  exact Keeps.bind (fun _ => rfl) fun host => Probe.keeps_ofExcept _

/-- A probe for a memory leaves the host alone. -/
theorem keeps_probe (source : MemorySource) (kind : MemoryKind) : Keeps Machine.host (kind.probe source) := by
  have look : Keeps Machine.host Probe.host := fun _ => rfl
  cases kind with
  | process =>
    show Keeps Machine.host processMemory
    unfold processMemory
    refine look.bind fun host => ?_
    split
    · exact keeps_pure none
    · exact keeps_memoryLimit.bind fun limit => (Probe.keeps_ofExcept _).bind fun usage => keeps_pure _
  | traced =>
    show Keeps Machine.host tracedMemory
    unfold tracedMemory
    refine look.bind fun host => ?_
    split
    · exact keeps_pure none
    · exact (Probe.keeps_ofExcept _).bind fun usage => keeps_pure _
  | physical => exact look.bind fun host => Probe.keeps_ofExcept _
  | swap => exact look.bind fun host => Probe.keeps_ofExcept _

/-- What a probe answers depends on the host alone, but for the memory of the process, whose limit may be
known. -/
theorem outcome_probe_congr (source : MemorySource) (kind : MemoryKind) (other : kind ≠ .process)
    {machine after : Machine} (same : after.host = machine.host) :
    ((kind.probe source).run.run after).1 = ((kind.probe source).run.run machine).1 := by
  cases kind with
  | process => exact absurd rfl other
  | traced =>
    have look (machine : Machine) : Probe.host.run.run machine = (.ok machine.host, machine) := rfl
    show (tracedMemory.run.run after).1 = (tracedMemory.run.run machine).1
    unfold tracedMemory
    rw [run_bind_of_ok (look after), run_bind_of_ok (look machine), same]
    rcases machine.host.traced with _ | ⟨current, peak⟩
    · rfl
    · dsimp only
      rw [run_bind, run_bind, Probe.run_ofExcept, Probe.run_ofExcept]
      cases usageOf current (max current peak) (-1) <;> rfl
  | physical =>
    show (source.physical.run.run after).1 = (source.physical.run.run machine).1
    rw [source.run_physical, source.run_physical, same]
  | swap =>
    show (source.swap.run.run after).1 = (source.swap.run.run machine).1
    rw [source.run_swap, source.run_swap, same]

end MemoryKind

/-! ### Threads -/

/-- **A snapshot counts its threads**, and those among them that do not keep the process alive. -/
structure ThreadSnapshot.Counts (snapshot : ThreadSnapshot) : Prop where
  count_eq : snapshot.count = snapshot.items.length
  daemons_eq : snapshot.daemons = (snapshot.items.filter fun item => item.info.daemon).length

theorem ThreadSnapshot.Counts.daemons_le {snapshot : ThreadSnapshot} (counts : snapshot.Counts) :
    0 ≤ snapshot.daemons ∧ snapshot.daemons ≤ snapshot.count := by
  have le := List.length_filter_le (fun item : ThreadItem => item.info.daemon) snapshot.items
  rw [counts.daemons_eq, counts.count_eq]
  omega

namespace LiveThread

theorem length_filter_daemon {threads : List LiveThread} {items : List ThreadItem}
    (same : List.Forall₂ (fun thread item => item.info.daemon = thread.daemon) threads items) :
    (threads.filter daemon).length = (items.filter fun item => item.info.daemon).length := by
  induction same with
  | nil => rfl
  | cons head rest ih =>
    rw [List.filter_cons, List.filter_cons, head]
    split <;> simp [ih]

end LiveThread

theorem yields_takeSnapshot (registry : LockRegistry) : Yields ThreadSnapshot.Counts (takeSnapshot registry) := by
  intro machine snapshot taken
  obtain ⟨items, becomes, rfl⟩ := ((endsAs_takeSnapshot registry).ends_iff machine snapshot).1 taken
  have same := becomes.imp fun _ _ => LiveThread.Becomes.daemon_eq
  exact ⟨rfl, congrArg Nat.cast (LiveThread.length_filter_daemon same)⟩

end HostWatch
