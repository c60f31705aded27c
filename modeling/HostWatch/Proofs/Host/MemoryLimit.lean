/-
**The limit on the memory of the process.**

The limit of the address space counts first, then the number in the first of the group files that holds one. A file
is asked for its number when its text looks like digits. Digits are not always a number, though: raised digits and
digits in circles stand for none, and so do more digits than are read. A text of this kind misleads the search, which
then fails instead of going on to the next file.

* `readInteger_digits_iff`: **which texts of digits are numbers.**
* `HostFile.number?`, `HostFile.Misleads`: the number that a file holds, and a file that only looks as if it did.
* `groupLimit_eq`, `exists_fault_of_misled`: what the search finds in the group files, and when it fails.
* `MemoryUsage.IsUnder`, `exists_isUnder`: the usage of some memory under a limit, which can always be told.
* `run_memoryLimit`, `run_poolLimit`, `run_memoryPools`: what the probes of the process answer.
* `Host.tellsLimit`: **the limit that is found**, and what is told under it.
* `Host.findMemoryLimit_of_raised`: a raised digit makes the search fail.
-/

import HostWatch.Host.ProcessMemory
import HostWatch.Proofs.Host.MemoryFigures
import HostWatch.Proofs.Text.Numeral

namespace HostWatch

open Stateful

/-! ### Digits and numbers -/

/-- A text that is the number its digits stand for. -/
structure Text.IsNumber (s : List Char) : Prop where
  nonempty : s ≠ []
  decimal : ∀ c ∈ s, (decimalDigit? c).isSome
  short : s.length ≤ mostDigits

instance (s : List Char) : Decidable (Text.IsNumber s) :=
  decidable_of_iff (s ≠ [] ∧ s.all (fun c => (Text.decimalDigit? c).isSome) = true ∧ s.length ≤ Text.mostDigits)
    ⟨fun ⟨nonempty, decimal, short⟩ => ⟨nonempty, List.all_eq_true.1 decimal, short⟩, fun isNumber =>
      ⟨isNumber.nonempty, List.all_eq_true.2 isNumber.decimal, isNumber.short⟩⟩

namespace Text

theorem IsNumber.isAllDigits {s : List Char} (isNumber : IsNumber s) : isAllDigits s = true := by
  unfold Text.isAllDigits
  rw [Bool.and_eq_true, Bool.not_eq_true', List.isEmpty_eq_false_iff, List.all_eq_true]
  refine ⟨isNumber.nonempty, fun c member => ?_⟩
  unfold isDigit
  rw [isNumber.decimal c member, Bool.true_or]

theorem IsNumber.denotes {s : List Char} (isNumber : IsNumber s) : Denotes s (numberOf s) := by
  have areGroups : AreGroups [s] := by
    refine ⟨nofun, ?_, ?_, ?_⟩
    · exact List.forall_mem_singleton.2 isNumber.nonempty
    · exact List.forall_mem_singleton.2 isNumber.decimal
    · rw [List.flatten_singleton]
      exact isNumber.short
  have plain := Denotes.plain areGroups
  rwa [List.intercalate_singleton, List.flatten_singleton] at plain

/-- Digits that denote an integer are its number: there is no place for a sign or an underscore among them. -/
theorem Denotes.of_isAllDigits {s : List Char} {n : Int} (denotes : Denotes s n) (digits : isAllDigits s = true) :
    IsNumber s ∧ n = numberOf s := by
  unfold isAllDigits at digits
  rw [Bool.and_eq_true, Bool.not_eq_true', List.isEmpty_eq_false_iff, List.all_eq_true] at digits
  obtain ⟨nonempty, all⟩ := digits
  cases denotes with
  | positive areGroups => exact absurd (all '+' List.mem_cons_self) (by decide)
  | negative areGroups => exact absurd (all '-' List.mem_cons_self) (by decide)
  | @plain groups areGroups =>
    rcases groups with _ | ⟨group, _ | ⟨next, groups⟩⟩
    · exact absurd rfl areGroups.nonempty
    · have short := areGroups.short
      rw [List.flatten_singleton] at short ⊢
      rw [List.intercalate_singleton] at nonempty ⊢
      exact ⟨⟨nonempty, areGroups.digits group List.mem_cons_self, short⟩, rfl⟩
    · refine absurd (all '_' ?_) (by decide)
      rw [List.intercalate_cons_cons]
      simp

/-- **Which texts of digits are numbers.** -/
theorem readInteger_digits_iff {s : List Char} (digits : isAllDigits (trimmed s) = true) (n : Int) :
    readInteger (trimmed s) = .ok n ↔ IsNumber (trimmed s) ∧ n = numberOf (trimmed s) := by
  rw [readInteger_trimmed_iff]
  refine ⟨fun denotes => denotes.of_isAllDigits digits, ?_⟩
  rintro ⟨isNumber, rfl⟩
  exact isNumber.denotes

end Text

/-! ### The group files -/

namespace HostFile

/-- The number that a file holds, if it can be read and is one. -/
def number? (file : HostFile) : Option Nat :=
  file.read?.bind fun text =>
    if Text.IsNumber (Text.trimmed text) then some (Text.numberOf (Text.trimmed text)) else none

theorem number?_eq_some_iff {file : HostFile} {number : Nat} :
    file.number? = some number ↔ ∃ text, file.read? = some text ∧
      Text.IsNumber (Text.trimmed text) ∧ Text.numberOf (Text.trimmed text) = number := by
  unfold number?
  simp only [Option.bind_eq_some_iff, Option.ite_none_right_eq_some, Option.some.injEq]

/-- A file that looks as if it held a number: its text is digits, but no number. -/
def Misleads (file : HostFile) : Prop :=
  ∃ text, file.read? = some text ∧ Text.isAllDigits (Text.trimmed text) = true ∧ ¬ Text.IsNumber (Text.trimmed text)

end HostFile

/-- The first files hold no number, and then one of them misleads. -/
def Misled : List HostFile → Prop
  | [] => False
  | file :: rest => file.Misleads ∨ file.number? = none ∧ Misled rest

/-- The limit that a number in a group file stands for. -/
def limitOf (number : Nat) : Option Int := if number < noLimit then some (number : Int) else none

theorem groupLimit_cons_of_number {file : HostFile} {number : Nat} (holds : file.number? = some number)
    (rest : List HostFile) : groupLimit (file :: rest) = .ok (limitOf number) := by
  obtain ⟨text, read, isNumber, rfl⟩ := HostFile.number?_eq_some_iff.1 holds
  have made : readInteger (Text.trimmed text) = .ok (Text.numberOf (Text.trimmed text)) := by
    unfold HostWatch.readInteger
    rw [(Text.readInteger_digits_iff isNumber.isAllDigits _).2 ⟨isNumber, rfl⟩]
    rfl
  unfold groupLimit
  rw [read]
  dsimp only
  rw [if_pos isNumber.isAllDigits, made]
  rfl

/-- A file that does not mislead and holds no number is passed over. -/
theorem groupLimit_cons_of_none {file : HostFile} (holds : file.number? = none) (honest : ¬ file.Misleads)
    (rest : List HostFile) : groupLimit (file :: rest) = groupLimit rest := by
  rw [groupLimit]
  cases read : file.read? with
  | none => rfl
  | some text =>
    refine if_neg fun digits => honest ⟨text, read, digits, fun isNumber => ?_⟩
    rw [HostFile.number?_eq_some_iff.2 ⟨text, read, isNumber, rfl⟩] at holds
    cases holds

theorem exists_fault_of_misleads {file : HostFile} (misleads : file.Misleads) (rest : List HostFile) :
    ∃ fault, groupLimit (file :: rest) = .error (.numeral fault) := by
  obtain ⟨text, read, digits, noNumber⟩ := misleads
  unfold groupLimit
  rw [read]
  dsimp only
  rw [if_pos digits]
  unfold HostWatch.readInteger
  cases made : Text.readInteger (Text.trimmed text) with
  | ok n => exact absurd ((Text.readInteger_digits_iff digits n).1 made).1 noNumber
  | error fault => exact ⟨fault, rfl⟩

/-- **What the search finds**, unless a file misleads it: the number of the first file that holds one. -/
theorem groupLimit_eq {files : List HostFile} (honest : ¬ Misled files) :
    groupLimit files = .ok ((files.findSome? HostFile.number?).bind limitOf) := by
  induction files with
  | nil => rfl
  | cons file rest ih =>
    unfold Misled at honest
    rw [not_or, not_and] at honest
    cases holds : file.number? with
    | some number =>
      rw [groupLimit_cons_of_number holds, List.findSome?_cons, holds, Option.bind_some]
    | none =>
      rw [groupLimit_cons_of_none holds honest.1, List.findSome?_cons, holds]
      exact ih (honest.2 holds)

/-- **When the search fails.** -/
theorem exists_fault_of_misled {files : List HostFile} (misled : Misled files) :
    ∃ fault, groupLimit files = .error (.numeral fault) := by
  induction files with
  | nil => exact misled.elim
  | cons file rest ih =>
    by_cases misleads : file.Misleads
    · exact exists_fault_of_misleads misleads rest
    · obtain ⟨holds, later⟩ := misled.resolve_left misleads
      rw [groupLimit_cons_of_none holds misleads]
      exact ih later

/-! ### The limit of the process -/

namespace Host

variable {host : Host} {limit : Int}

/-- **The limit of the address space counts**: the host tells it, and it is a number of bytes above zero. -/
structure SoftLimit (host : Host) (limit : Int) : Prop where
  asked : host.linuxDevices = true
  shown : host.processHidden = false
  told : host.addressLimit = some (.bytes limit)
  positive : 0 < limit

theorem softLimit_iff :
    (if host.linuxDevices then host.addressLimit? else none) = some limit ↔ host.SoftLimit limit := by
  constructor
  · intro found
    obtain ⟨asked, found⟩ := Option.ite_none_right_eq_some.1 found
    unfold addressLimit? at found
    split at found
    · cases found
    · rename_i shown
      split at found
      · rename_i told
        obtain ⟨positive, same⟩ := Option.ite_none_right_eq_some.1 found
        obtain rfl := Option.some.inj same
        exact ⟨asked, Bool.eq_false_iff.2 shown, told, positive⟩
      · cases found
  · rintro ⟨asked, shown, told, positive⟩
    unfold addressLimit?
    rw [if_pos asked, shown, told]
    exact if_pos positive

theorem findMemoryLimit_of_softLimit (soft : host.SoftLimit limit) : host.findMemoryLimit = .ok limit := by
  unfold findMemoryLimit
  rw [softLimit_iff.2 soft]

/-- Without a limit of the address space, the group files decide. -/
theorem findMemoryLimit_of_group (none : ∀ limit, ¬ host.SoftLimit limit) :
    host.findMemoryLimit = (groupLimit host.groupLimits).map (·.getD (-1)) := by
  unfold findMemoryLimit
  rw [Option.eq_none_iff_forall_ne_some.2 fun limit found => none limit (softLimit_iff.1 found)]
  cases groupLimit host.groupLimits <;> rfl

theorem neg_one_le_limitOf (number : Option Nat) : -1 ≤ (number.bind limitOf).getD (-1) := by
  cases number with
  | none => exact Int.le_refl _
  | some number =>
    rw [Option.bind_some]
    unfold limitOf
    split
    · exact Int.le_trans (by decide) (Int.natCast_nonneg number)
    · exact Int.le_refl _

theorem neg_one_le_of_findMemoryLimit (found : host.findMemoryLimit = .ok limit) : -1 ≤ limit := by
  by_cases soft : ∃ limit, host.SoftLimit limit
  · obtain ⟨limit, soft⟩ := soft
    rw [findMemoryLimit_of_softLimit soft] at found
    obtain rfl := Except.ok.inj found
    exact Int.le_trans (by decide) (Int.le_of_lt soft.positive)
  · rw [findMemoryLimit_of_group (not_exists.1 soft)] at found
    obtain ⟨number, searched, rfl⟩ := exists_of_map_eq_ok found
    by_cases misled : Misled host.groupLimits
    · obtain ⟨fault, fails⟩ := exists_fault_of_misled misled
      rw [fails] at searched
      cases searched
    · rw [groupLimit_eq misled] at searched
      obtain rfl := Except.ok.inj searched
      exact neg_one_le_limitOf _

end Host

/-! ### Usages under a limit -/

/-- **The usage of some memory under a limit**, which does not count when it is exceeded. -/
structure MemoryUsage.IsUnder (usage : MemoryUsage) (limit used : Int) : Prop where
  used_eq : usage.used = used
  committed_eq : usage.committed = used
  max_eq : usage.max = if used ≤ limit then limit else -1

/-- A usage can be told under any limit. -/
theorem exists_isUnder {limit used : Int} (known : -1 ≤ limit) (nonneg : 0 ≤ used) :
    ∃ usage, usageUnder limit used = .ok usage ∧ usage.IsUnder limit used := by
  have counts : (if 0 ≤ limit ∧ limit < used then -1 else limit) = if used ≤ limit then limit else -1 := by
    split <;> split <;> omega
  have bounded : -1 ≤ (if used ≤ limit then limit else -1) := by split <;> omega
  have within : 0 ≤ (if used ≤ limit then limit else -1) → used ≤ (if used ≤ limit then limit else -1) := by
    split <;> omega
  refine ⟨⟨-1, used, used, _, Int.le_refl _, bounded, nonneg, Int.le_refl _, within⟩, ?_, rfl, rfl, rfl⟩
  unfold usageUnder
  rw [counts]
  exact usageOf_eq_ok_iff.2 ⟨rfl, rfl, rfl, rfl⟩

/-- **A pool with usages under a bound**: the usage of the moment, and the one after the last full collection. -/
structure MemoryPool.IsUnder (pool : MemoryPool) (bound resident : Int) (after? : Option Int) : Prop where
  usage : ∃ usage, pool.usage = some usage ∧ usage.IsUnder bound resident
  afterCollection : Option.Rel (fun after usage => usage.IsUnder bound after) after? pool.afterCollection
  comparable_eq : pool.comparable = decide (0 < bound)

theorem exists_poolOf {bound resident : Int} {after? : Option Int} (known : -1 ≤ bound) (nonneg : 0 ≤ resident)
    (measured : ∀ after ∈ after?, 0 ≤ after) :
    ∃ pool, poolOf bound resident after? = .ok pool ∧ pool.IsUnder bound resident after? := by
  obtain ⟨usage, told, isUnder⟩ := exists_isUnder known nonneg
  unfold poolOf
  rw [told]
  cases after? with
  | none => exact ⟨_, rfl, ⟨usage, rfl, isUnder⟩, .none, rfl⟩
  | some after =>
    obtain ⟨cleaned, toldAfter, isUnderAfter⟩ := exists_isUnder known (measured after rfl)
    dsimp only
    rw [toldAfter]
    exact ⟨_, rfl, ⟨usage, rfl, isUnder⟩, .some isUnderAfter, rfl⟩

/-! ### The probes of the process -/

/-- **The limit that a machine knows**, from an earlier search on some host, or else finds now. -/
def Machine.HasLimit (machine : Machine) (limit : Int) : Prop :=
  machine.memoryLimit = some limit ∧ (∃ host : Host, host.findMemoryLimit = .ok limit) ∨
    machine.memoryLimit = none ∧ machine.host.findMemoryLimit = .ok limit

/-- The resident memory after the last full collection that the shared collections noted. -/
def Machine.residentAfterFull? (machine : Machine) : Option Int :=
  machine.collections.bind Collections.residentAfterFull

/-- What the search for the limit leaves alone. -/
def pooled (machine : Machine) : Host × Option Collections := (machine.host, machine.collections)

theorem run_host (machine : Machine) : Probe.host.run.run machine = (.ok machine.host, machine) := rfl

section Probes

variable {machine : Machine} {limit bound resident : Int}

theorem Machine.HasLimit.neg_one_le (has : machine.HasLimit limit) : -1 ≤ limit := by
  rcases has with ⟨-, host, found⟩ | ⟨-, found⟩
  · exact Host.neg_one_le_of_findMemoryLimit found
  · exact Host.neg_one_le_of_findMemoryLimit found

theorem run_memoryLimit (has : machine.HasLimit limit) : (memoryLimit.run.run machine).1 = .ok limit := by
  unfold memoryLimit
  rcases has with ⟨known, -⟩ | ⟨unknown, found⟩
  · rw [Probe.run_once_of_known _ _ known]
  · have search : (do Probe.ofExcept (← Probe.host).findMemoryLimit : Probe Int).run.run machine =
        (.ok limit, machine) := by
      rw [run_bind_of_ok (run_host machine), Probe.run_ofExcept, found]
    rw [Probe.run_once_of_unknown _ unknown search]

theorem exists_run_processMemory (has : machine.HasLimit limit) (shown : machine.host.resident? = some resident)
    (nonneg : 0 ≤ resident) :
    ∃ usage, (processMemory.run.run machine).1 = .ok (some usage) ∧ usage.IsUnder limit resident := by
  obtain ⟨usage, told, isUnder⟩ := exists_isUnder has.neg_one_le nonneg
  refine ⟨usage, ?_, isUnder⟩
  unfold processMemory
  rw [run_bind_of_ok (run_host machine), shown]
  dsimp only
  rw [run_bind_of_ok (Prod.ext (run_memoryLimit has) rfl), run_bind_of_ok (by rw [Probe.run_ofExcept, told])]
  rfl

theorem keeps_memorySource : Keeps pooled memorySource := by
  refine Probe.keeps_once _ (fun _ _ => rfl) ?_
  have keepsPlatform : Keeps pooled platform :=
    Probe.keeps_once _ (fun _ _ => rfl) (Keeps.bind (fun _ => rfl) fun host => keeps_pure _)
  have keepsCounters : Keeps pooled MemorySource.counters.physical :=
    Keeps.bind (fun _ => rfl) fun host => Probe.keeps_ofExcept _
  unfold findMemorySource
  refine keepsPlatform.bind fun found => ?_
  have rest (file : Bool) : Keeps pooled (if file then pure MemorySource.file
      else do if (← MemorySource.counters.physical).isSome then return .counters else return .none) := by
    split
    · exact keeps_pure _
    · exact keepsCounters.bind fun usage => by split <;> exact keeps_pure _
  cases found with
  | linux => exact Keeps.bind (fun _ => rfl) fun host => rest _
  | windows => exact rest false
  | unsupported => exact rest false

theorem keeps_poolLimit : Keeps pooled poolLimit := by
  have keepsLimit : Keeps pooled memoryLimit :=
    Probe.keeps_once _ (fun _ _ => rfl) (Keeps.bind (fun _ => rfl) fun host => Probe.keeps_ofExcept _)
  refine keepsLimit.bind fun limit => ?_
  split
  · exact keeps_pure _
  · refine keeps_memorySource.bind fun source => ?_
    refine Keeps.bind (Keeps.bind (fun _ => rfl) fun host => Probe.keeps_ofExcept _) fun usage => ?_
    cases usage <;> exact keeps_pure _

/-- A limit of its own is the bound of the pool. -/
theorem run_poolLimit (has : machine.HasLimit limit) (own : 0 ≤ limit) :
    (poolLimit.run.run machine).1 = .ok limit := by
  unfold poolLimit
  rw [run_bind_of_ok (Prod.ext (run_memoryLimit has) rfl), if_pos own]
  rfl

/-- The bound of the pool is a limit, or the known size of the physical memory, or unknown. -/
theorem yields_poolLimit : Yields (-1 ≤ ·) poolLimit := by
  refine yields_bind _ fun limit => ?_
  split
  · rename_i own
    exact yields_pure (Int.le_trans (by decide) own)
  · refine yields_bind _ fun source => yields_bind _ fun usage => ?_
    cases usage with
    | none => exact yields_pure (Int.le_refl _)
    | some usage => exact yields_pure usage.unknown_le_max

/-- The shared collections tell what they have noted, which is nothing before their first use. -/
theorem exists_run_sharedCollections (machine : Machine) :
    ∃ collections, (sharedCollections.run.run machine).1 = .ok collections ∧
      collections.residentAfterFull = machine.residentAfterFull? := by
  unfold sharedCollections Machine.residentAfterFull?
  cases shared : machine.collections with
  | some collections =>
    rw [Probe.run_once_of_known _ _ shared]
    exact ⟨collections, rfl, rfl⟩
  | none =>
    have begun : (do return Collections.unwatched.watch (← Probe.host) : Probe Collections).run.run machine =
        (.ok (Collections.unwatched.watch machine.host), machine) := run_bind_of_ok (run_host machine) _
    rw [Probe.run_once_of_unknown _ shared begun]
    exact ⟨_, rfl, rfl⟩

/-- **The pool of the process**, by its bound and the resident memory. -/
theorem run_memoryPools (bounded : (poolLimit.run.run machine).1 = .ok bound)
    (shown : machine.host.resident? = some resident) :
    (memoryPools.run.run machine).1 = (poolOf bound resident machine.residentAfterFull?).map ([·]) := by
  have kept := keeps_poolLimit machine
  rcases result : poolLimit.run.run machine with ⟨outcome, after⟩
  rw [result] at bounded kept
  obtain rfl : outcome = .ok bound := bounded
  obtain ⟨host_eq, collections_eq⟩ := Prod.mk.inj kept
  obtain ⟨collections, shared, noted⟩ := exists_run_sharedCollections after
  have noted : collections.residentAfterFull = machine.residentAfterFull? := by
    rw [noted, Machine.residentAfterFull?, collections_eq, Machine.residentAfterFull?]
  unfold memoryPools
  rw [run_bind_of_ok result, run_bind_of_ok (run_host after), host_eq, shown]
  dsimp only
  rw [run_bind_of_ok (Prod.ext shared rfl), noted, run_bind, Probe.run_ofExcept]
  cases poolOf bound resident machine.residentAfterFull? <;> rfl

end Probes

/-! ### What is told -/

/-- **The limit that is found.** -/
structure Host.TellsLimit (host : Host) : Prop where
  /-- A limit of the address space counts first. -/
  of_softLimit : ∀ limit, host.SoftLimit limit → host.findMemoryLimit = .ok limit
  /-- Without one, the number in the first group file that holds one is the limit, unless it stands for none. -/
  of_group : (∀ limit, ¬ host.SoftLimit limit) → ¬ Misled host.groupLimits →
    host.findMemoryLimit = .ok (((host.groupLimits.findSome? HostFile.number?).bind limitOf).getD (-1))
  /-- A group file that only looks as if it held a number makes the search fail. -/
  of_misled : (∀ limit, ¬ host.SoftLimit limit) → Misled host.groupLimits →
    ∃ fault, host.findMemoryLimit = .error (.numeral fault)

/-- **What is told under the limit.** -/
structure Machine.TellsUnderLimit (machine : Machine) : Prop where
  process_isUnder : ∀ limit resident, machine.HasLimit limit → machine.host.resident? = some resident →
    0 ≤ resident → ∃ usage, (processMemory.run.run machine).1 = .ok (some usage) ∧ usage.IsUnder limit resident
  /-- The pool is bounded by the limit, when there is one. -/
  bound_eq : ∀ limit, machine.HasLimit limit → 0 ≤ limit → (poolLimit.run.run machine).1 = .ok limit
  /-- Whatever the bound is, the usages of the pool are those under it. -/
  pool_isUnder : ∀ bound resident, (poolLimit.run.run machine).1 = .ok bound →
    machine.host.resident? = some resident → 0 ≤ resident → (∀ after ∈ machine.residentAfterFull?, 0 ≤ after) →
    ∃ pool, (memoryPools.run.run machine).1 = .ok [pool] ∧ pool.IsUnder bound resident machine.residentAfterFull?

/-- **The limit that is found, and what is told under it**, on every host and every machine. -/
theorem Host.tellsLimit (host : Host) (machine : Machine) : host.TellsLimit ∧ machine.TellsUnderLimit := by
  refine ⟨⟨fun limit => findMemoryLimit_of_softLimit, fun none honest => ?_, fun none misled => ?_⟩,
    ⟨fun limit resident => exists_run_processMemory, fun limit => run_poolLimit, ?_⟩⟩
  · rw [findMemoryLimit_of_group none, groupLimit_eq honest]
    rfl
  · obtain ⟨fault, fails⟩ := exists_fault_of_misled misled
    rw [findMemoryLimit_of_group none, fails]
    exact ⟨fault, rfl⟩
  · intro bound resident bounded shown nonneg measured
    obtain ⟨pool, made, isUnder⟩ := exists_poolOf (yields_poolLimit machine bound bounded) nonneg measured
    refine ⟨pool, ?_, isUnder⟩
    rw [run_memoryPools bounded shown, made]
    rfl

/-- A host whose first group file shows a raised digit, and whose second one holds a number. -/
def Host.raised : Host := { bare with groupLimits := [.text "²", .text "640"] }

/-- **A raised digit makes the search fail**, though the first file that holds a number holds one. -/
theorem Host.findMemoryLimit_of_raised :
    (∀ limit, ¬ raised.SoftLimit limit) ∧ raised.groupLimits.findSome? HostFile.number? = some 640 ∧
      raised.findMemoryLimit.mapError Failure.message =
        .error (.ok "invalid literal for int() with base 10: '²'") := by
  refine ⟨fun limit soft => ?_, by decide +kernel, by decide +kernel⟩
  have told : some AddressLimit.unlimited = some (.bytes limit) := soft.told
  cases told

end HostWatch
