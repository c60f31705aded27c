/-
**The figures of the memory of a host.**

A source of figures should give nothing, or a usage whose figures are in order; it should not fail. The figures
that the host shows need not agree with each other, though: the file may tell more free memory than there is.

* `answered_usageOf_iff`: **three figures are a usage in order exactly when each is at most the next one.**
* `Properties.sizes?_eq_some_iff`: what it takes that several sizes are told by a file.
* `MemorySource.answers_iff`: **when a source answers as it should.** By counters it takes totals that are not
  negative. By the file, the free memory must be within the total, and buffers and caches must not add up to
  less than nothing; what is missing or is no number does no harm.
* `MemorySource.physical_of_overfull`: a file with more free memory than there is makes the source fail.
-/

import HostWatch.Host.Memory
import HostWatch.Proofs.Stateful
import HostWatch.Proofs.Usage.MemoryArithmetic
import Mathlib.Data.List.Forall2
import Mathlib.Tactic.SplitIfs

namespace HostWatch

/-! ### Usages in order -/

theorem usageOf_eq_ok_iff {used committed max : Int} {usage : MemoryUsage} :
    usageOf used committed max = .ok usage ↔
      usage.init = -1 ∧ usage.used = used ∧ usage.committed = committed ∧ usage.max = max := by
  rw [← MemoryUsage.of?_eq_ok_iff]
  unfold usageOf
  cases MemoryUsage.of? (-1) used committed max <;> simp [Except.mapError]

/-- **A usage in order**: its initial size is not known, and each other figure is at most the next one. -/
structure MemoryUsage.InOrder (usage : MemoryUsage) : Prop where
  init_eq : usage.init = -1
  used_nonneg : 0 ≤ usage.used
  used_le_committed : usage.used ≤ usage.committed
  committed_le_max : usage.committed ≤ usage.max

/-- **An answer as it should be**: nothing, or a usage in order. -/
def Answered (outcome : Except Failure (Option MemoryUsage)) : Prop :=
  ∃ usage?, outcome = .ok usage? ∧ ∀ usage, usage? = some usage → usage.InOrder

theorem answered_none : Answered (.ok none) := ⟨none, rfl, nofun⟩

/-- **Three figures are a usage in order exactly when each is at most the next one.** -/
theorem answered_usageOf_iff (used committed max : Int) :
    Answered ((usageOf used committed max).map some) ↔ 0 ≤ used ∧ used ≤ committed ∧ committed ≤ max := by
  constructor
  · rintro ⟨usage?, made, inOrder⟩
    obtain ⟨usage, accepted, rfl⟩ := exists_of_map_eq_ok made
    obtain ⟨-, rfl, rfl, rfl⟩ := usageOf_eq_ok_iff.1 accepted
    have order := inOrder usage rfl
    exact ⟨order.used_nonneg, order.used_le_committed, order.committed_le_max⟩
  · rintro ⟨nonneg, le_committed, le_max⟩
    let usage : MemoryUsage :=
      ⟨-1, used, committed, max, Int.le_refl _, by omega, nonneg, le_committed, fun _ => le_max⟩
    have accepted : usageOf used committed max = .ok usage := usageOf_eq_ok_iff.2 ⟨rfl, rfl, rfl, rfl⟩
    refine ⟨some usage, by rw [accepted]; rfl, ?_⟩
    rintro other ⟨⟩
    exact ⟨rfl, nonneg, le_committed, le_max⟩

theorem answered_usageByCounters_iff (total used : Int) :
    Answered ((usageByCounters total used).map some) ↔ 0 ≤ total := by
  unfold usageByCounters
  rw [answered_usageOf_iff]
  omega

/-! ### Sizes in a file -/

namespace Properties

theorem sizes?_cons (properties : Properties) (name : String) (names : List String) :
    properties.sizes? (name :: names) =
      match properties.bytes? name with
      | .error _ => none
      | .ok size => (properties.sizes? names).map (size :: ·) := by
  unfold sizes?
  rw [List.mapM_cons]
  cases properties.bytes? name with
  | error failure => rfl
  | ok size =>
    cases names.mapM fun name => properties.bytes? name <;> rfl

/-- **What it takes that several sizes are told**: each is missing, or is a number. -/
theorem sizes?_eq_some_iff {properties : Properties} {names : List String} {sizes : List (Option Int)} :
    properties.sizes? names = some sizes ↔
      List.Forall₂ (fun name size => properties.bytes? name = .ok size) names sizes := by
  induction names generalizing sizes with
  | nil =>
    rw [List.forall₂_nil_left_iff]
    exact ⟨fun told => (Option.some.inj told).symm, fun none => by rw [none]; rfl⟩
  | cons name names ih =>
    rw [sizes?_cons, List.forall₂_cons_left_iff]
    cases properties.bytes? name with
    | error failure => simp
    | ok size =>
      simp only [Option.map_eq_some_iff, ih, Except.ok.injEq]
      constructor
      · rintro ⟨rest, told, rfl⟩
        exact ⟨size, rest, rfl, told, rfl⟩
      · rintro ⟨first, rest, rfl, told, rfl⟩
        exact ⟨rest, told, rfl⟩

/-- The sizes of the physical memory agree, if they are told. -/
def PhysicalAgrees (properties : Properties) : Prop :=
  ∀ total free buffers cached,
    properties.bytes? "MemTotal" = .ok (some total) → properties.bytes? "MemFree" = .ok (some free) →
    properties.bytes? "Buffers" = .ok buffers → properties.bytes? "Cached" = .ok cached →
    0 ≤ free ∧ free ≤ total ∧ ∀ b c, buffers = some b → cached = some c → 0 ≤ b + c

def SwapAgrees (properties : Properties) : Prop :=
  ∀ total free,
    properties.bytes? "SwapTotal" = .ok (some total) → properties.bytes? "SwapFree" = .ok (some free) →
    0 ≤ free ∧ free ≤ total

theorem physicalAgrees_iff (properties : Properties) :
    properties.PhysicalAgrees ↔ ∀ total free buffers cached,
      properties.sizes? ["MemTotal", "MemFree", "Buffers", "Cached"] =
        some [some total, some free, buffers, cached] →
      0 ≤ free ∧ free ≤ total ∧ ∀ b c, buffers = some b → cached = some c → 0 ≤ b + c := by
  simp only [PhysicalAgrees, sizes?_eq_some_iff, List.forall₂_cons, List.Forall₂.nil, and_true, and_imp]

theorem swapAgrees_iff (properties : Properties) :
    properties.SwapAgrees ↔ ∀ total free,
      properties.sizes? ["SwapTotal", "SwapFree"] = some [some total, some free] →
      0 ≤ free ∧ free ≤ total := by
  simp only [SwapAgrees, sizes?_eq_some_iff, List.forall₂_cons, List.Forall₂.nil, and_true, and_imp]

theorem answered_physicalMemory_iff (properties : Properties) :
    Answered properties.physicalMemory ↔ properties.PhysicalAgrees := by
  rw [physicalAgrees_iff]
  unfold physicalMemory
  split
  · rename_i total free buffers cached told
    dsimp only
    rw [answered_usageOf_iff, told]
    constructor
    · rintro inOrder _ _ _ _ ⟨⟩
      rcases buffers with _ | b
      · simp only at inOrder
        exact ⟨by omega, by omega, nofun⟩
      · rcases cached with _ | c
        · simp only at inOrder
          exact ⟨by omega, by omega, nofun⟩
        · simp only at inOrder
          refine ⟨by omega, by omega, ?_⟩
          rintro _ _ ⟨⟩ ⟨⟩
          omega
    · intro agrees
      obtain ⟨nonneg, le_total, sum⟩ := agrees total free buffers cached rfl
      rcases buffers with _ | b
      · simp only
        omega
      · rcases cached with _ | c
        · simp only
          omega
        · have := sum b c rfl rfl
          simp only
          omega
  · rename_i untold
    exact iff_of_true answered_none fun total free buffers cached told =>
      (untold total free buffers cached told).elim

theorem answered_swap_iff (properties : Properties) : Answered properties.swap ↔ properties.SwapAgrees := by
  rw [swapAgrees_iff]
  unfold swap
  split
  · rename_i total free told
    rw [answered_usageOf_iff, told]
    constructor
    · rintro inOrder _ _ ⟨⟩
      omega
    · intro agrees
      have := agrees total free rfl
      omega
  · rename_i untold
    exact iff_of_true answered_none fun total free told => (untold total free told).elim

end Properties

/-! ### Sources -/

namespace MemorySource

theorem run_physical (source : MemorySource) (machine : Machine) :
    source.physical.run.run machine = (source.physicalOf machine.host, machine) :=
  Probe.run_ofExcept _ machine

theorem run_swap (source : MemorySource) (machine : Machine) :
    source.swap.run.run machine = (source.swapOf machine.host, machine) :=
  Probe.run_ofExcept _ machine

/-- The figures of the physical memory agree, as far as the host shows them to a source. -/
def PhysicalAgrees (source : MemorySource) (host : Host) : Prop :=
  match source with
  | file => ∀ properties, host.memoryProperties? = some properties → properties.PhysicalAgrees
  | counters => ∀ total available, host.physicalMemory = some (total, available) → 0 ≤ total
  | none => True

def SwapAgrees (source : MemorySource) (host : Host) : Prop :=
  match source with
  | file => ∀ properties, host.memoryProperties? = some properties → properties.SwapAgrees
  | counters => ∀ total used, host.swap = some (total, used) → 0 ≤ total
  | none => True

theorem answered_physicalOf_iff (source : MemorySource) (host : Host) :
    Answered (source.physicalOf host) ↔ source.PhysicalAgrees host := by
  unfold physicalOf PhysicalAgrees
  cases source with
  | file =>
    cases host.memoryProperties? with
    | none => simp [answered_none]
    | some properties => simp [properties.answered_physicalMemory_iff]
  | counters =>
    rcases host.physicalMemory with _ | ⟨total, available⟩
    · simp [answered_none]
    · simp [answered_usageByCounters_iff]
  | none => simp [answered_none]

theorem answered_swapOf_iff (source : MemorySource) (host : Host) :
    Answered (source.swapOf host) ↔ source.SwapAgrees host := by
  unfold swapOf SwapAgrees
  cases source with
  | file =>
    cases host.memoryProperties? with
    | none => simp [answered_none]
    | some properties => simp [properties.answered_swap_iff]
  | counters =>
    rcases host.swap with _ | ⟨total, used⟩
    · simp [answered_none]
    · simp [answered_usageByCounters_iff]
  | none => simp [answered_none]

/-- **A source answers as it should exactly when the figures agree**, as far as the host shows them. -/
theorem answers_iff (source : MemorySource) (machine : Machine) :
    (Answered (source.physical.run.run machine).1 ↔ source.PhysicalAgrees machine.host) ∧
      (Answered (source.swap.run.run machine).1 ↔ source.SwapAgrees machine.host) := by
  rw [run_physical, run_swap]
  exact ⟨source.answered_physicalOf_iff machine.host, source.answered_swapOf_iff machine.host⟩

/-- A host whose file tells more free memory than there is. -/
def overfull : Host := { Host.bare with memoryFile := .text "MemTotal: 1 kB\nMemFree: 2 kB\n" }

/-- **More free memory than there is makes the source fail.** -/
theorem physical_of_overfull :
    (file.physical.run.run (.ofHost overfull)).1 = .error (.memory (.negative "used" (-1024))) ∧
      ¬ Answered (file.physical.run.run (.ofHost overfull)).1 := by
  have fails : (file.physical.run.run (.ofHost overfull)).1 = .error (.memory (.negative "used" (-1024))) := by
    rfl
  refine ⟨fails, ?_⟩
  rw [fails]
  rintro ⟨usage?, made, -⟩
  cases made

end MemorySource

end HostWatch
