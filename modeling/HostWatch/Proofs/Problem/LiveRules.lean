/-
**What the rules on the live host flag.**

Three rules compare what the host tells with a threshold. Each of them passes over what it cannot compare: a pool
without a greatest size, a drive that does not answer, swap that is not there. What is passed over neither sets a flag
nor takes one away. Only what the rule on free space says may be too long to be written, and then the rule fails as a
whole. Physical memory and swap are taken together, so that the percentage in use lies between the percentages of the
two.

* `min_ediv_le_ediv_add`, `ediv_add_le_max_ediv`: **the quotient of two sums lies between the quotients.**
* `MemoryPool.StaysFull`, `flagged_cleanupFindingOf_iff_staysFull`: the pools that are flagged.
* `Sources.queried`, `run_freeSpaceFinding`: the drives with what the query of each of them gave.
* `IsTold`, `exists_freeSpaceOf_iff`: the drives that can be told of, without which the rule finds nothing.
* `flagged_freeSpaceOf_iff`, `toList_diagnosis_of_failed`: **the drives that are flagged**, and the line of one that
  failed.
* `virtualPercent`, `virtualPercent_between`: the percentage that is used of physical memory and swap together.
* `flagged_hostMemoryOf_iff`: the memory that is flagged.
* `Analyzer.watchesLive`: **what the reports on the live host flag**, whatever the host tells.
* `Analyzer.freeSpace_of_vast`: a drive with too much free space to be written hides one that has too little.
-/

import HostWatch.Proofs.Problem.CleanupAlarm
import HostWatch.Proofs.Text.Words
import HostWatch.Proofs.Usage.MemoryArithmetic

namespace HostWatch

open Stateful

/-! ### Quotients of sums -/

section Quotients

variable {a b c d : Int}

theorem min_ediv_le_ediv_add (positive : 0 < b) (positive' : 0 < d) :
    min (a / b) (c / d) ≤ (a + c) / (b + d) := by
  have first : min (a / b) (c / d) * b ≤ a := (Int.le_ediv_iff_mul_le positive).1 (Int.min_le_left _ _)
  have second : min (a / b) (c / d) * d ≤ c := (Int.le_ediv_iff_mul_le positive').1 (Int.min_le_right _ _)
  refine (Int.le_ediv_iff_mul_le (Int.add_pos positive positive')).2 ?_
  rw [Int.mul_add]
  exact Int.add_le_add first second

theorem ediv_add_le_max_ediv (positive : 0 < b) (positive' : 0 < d) :
    (a + c) / (b + d) ≤ max (a / b) (c / d) := by
  have first : a < (max (a / b) (c / d) + 1) * b :=
    (Int.ediv_lt_iff_lt_mul positive).1 (Int.lt_add_one_of_le (Int.le_max_left _ _))
  have second : c < (max (a / b) (c / d) + 1) * d :=
    (Int.ediv_lt_iff_lt_mul positive').1 (Int.lt_add_one_of_le (Int.le_max_right _ _))
  refine Int.le_of_lt_add_one ((Int.ediv_lt_iff_lt_mul (Int.add_pos positive positive')).2 ?_)
  rw [Int.mul_add]
  exact Int.add_lt_add first second

end Quotients

/-! ### Pools -/

/-- A pool stays as full as a threshold: what is left in it after a full collection can be compared, and reaches
the threshold. -/
def MemoryPool.StaysFull (pool : MemoryPool) (threshold : Int) : Prop :=
  pool.comparable = true ∧ ∃ usage, pool.afterCollection = some usage ∧ 0 < usage.max ∧
    threshold ≤ usage.used * 100 / usage.max

namespace Rules

variable {config : Config}

theorem fullness?_eq_some_iff {pool : MemoryPool} {usage? : Option MemoryUsage} {percent : Int} :
    fullness? pool usage? = some percent ↔ pool.comparable = true ∧
      ∃ usage, usage? = some usage ∧ 0 < usage.max ∧ usage.used * 100 / usage.max = percent := by
  unfold fullness? MemoryUsage.usedPercent?
  simp only [Option.ite_none_right_eq_some, Option.bind_eq_some_iff, MemoryUsage.percentOfMax?_eq_some_iff]

theorem flagged_cleanupFindingOf_iff_staysFull (pools : List MemoryPool) :
    (cleanupFindingOf config pools).flagged = true ↔
      ∃ pool ∈ pools, pool.StaysFull (config.integer .afterCollectionThreshold) := by
  rw [flagged_cleanupFindingOf_iff]
  refine exists_congr fun pool => and_congr_right fun _ => ?_
  constructor
  · rintro ⟨percent, full, reached⟩
    obtain ⟨comparable, usage, told, positive, rfl⟩ := fullness?_eq_some_iff.1 full
    exact ⟨comparable, usage, told, positive, reached⟩
  · rintro ⟨comparable, usage, told, positive, reached⟩
    exact ⟨_, fullness?_eq_some_iff.2 ⟨comparable, usage, told, positive, rfl⟩, reached⟩

end Rules

/-! ### Drives -/

/-- A drive by its mount point, with what the query of its free space gave. -/
abbrev QueriedDrive := String × Except Failure Int

/-- The drives with what their queries give, which are made one after the other. -/
def Sources.queried (sources : Sources) (machine : Machine) (mountPoints : List String) : List QueriedDrive :=
  (visits (fun mountPoint machine => ((sources.freeSpace mountPoint).run.run machine).2) machine mountPoints).map
    fun (mountPoint, before) => (mountPoint, ((sources.freeSpace mountPoint).run.run before).1)

/-- A drive told that it has less free space than there should be. -/
def IsLow (least : Int) (drive : QueriedDrive) : Prop :=
  ∃ free, drive.2 = .ok free ∧ free < least

/-- A drive can be told of: its free space can be written, or the failure to have it. -/
structure IsTold (drive : QueriedDrive) : Prop where
  free : ∀ free, drive.2 = .ok free → Text.isWritable free
  failure : ∀ failure, drive.2 = .error failure → ∃ text, failure.written = .ok text

namespace Rules

variable {config : Config}

/-- What the rule on free space finds on one drive. -/
def findingOn (config : Config) (drive : QueriedDrive) : Except NumeralFault Finding :=
  driveFinding config drive.1 drive.2

/-- What the rule on free space finds on some drives. -/
def freeSpaceOf (config : Config) (drives : List QueriedDrive) : Except NumeralFault Finding := do
  let findings ← drives.mapM (findingOn config)
  let lines := Text.trim (joinLines (findings.map Finding.diagnosis))
  return ⟨findings.any Finding.flagged, if lines = "" then "OK" else lines⟩

/-- The rule asks each drive, and goes on when a query fails. -/
theorem run_freeSpaceFinding {sources : Sources} {machine after : Machine} {mountPoints : List String}
    (answered : sources.mountPoints.run.run machine = (.ok mountPoints, after)) :
    ((freeSpaceFinding config sources).run.run machine).1 =
      (freeSpaceOf config (sources.queried after mountPoints)).mapError Failure.numeral := by
  obtain ⟨last, asked⟩ : ∃ last, (mountPoints.mapM fun mountPoint => do
      let free ← Probe.outcome (sources.freeSpace mountPoint)
      Probe.ofExcept ((driveFinding config mountPoint free).mapError Failure.numeral)).run.run after =
        (((sources.queried after mountPoints).mapM (findingOn config)).mapError Failure.numeral, last) := by
    refine ⟨_, Prod.ext ?_ rfl⟩
    rw [← mapM_mapError, Sources.queried, List.mapM_map]
    refine fst_run_mapM (fun mountPoint before => ?_) mountPoints after
    refine ⟨((sources.freeSpace mountPoint).run.run before).2, ?_, fun _ _ => rfl⟩
    rw [run_bind_of_ok (Probe.run_outcome _ before), Probe.run_ofExcept]
    rfl
  unfold freeSpaceFinding freeSpaceOf
  rw [run_bind_of_ok answered, run_bind, asked]
  cases (sources.queried after mountPoints).mapM (findingOn config) <;> rfl

theorem exists_findingOn_iff (drive : QueriedDrive) :
    (∃ finding, findingOn config drive = .ok finding) ↔ IsTold drive := by
  obtain ⟨mountPoint, failure | free⟩ := drive
  · constructor
    · rintro ⟨finding, found⟩
      obtain ⟨text, written, -⟩ := exists_of_bind_eq_ok found
      exact ⟨nofun, fun other same => ⟨text, Except.error.inj same ▸ written⟩⟩
    · intro told
      obtain ⟨text, written⟩ := told.failure failure rfl
      exact ⟨_, congrArg (· >>= _) written⟩
  · constructor
    · rintro ⟨finding, found⟩
      obtain ⟨text, written, -⟩ := exists_of_bind_eq_ok found
      exact ⟨fun other same => Except.ok.inj same ▸ (Text.decimal_eq_ok_iff.1 written).1, nofun⟩
    · intro told
      exact ⟨_, congrArg (· >>= _) (Text.decimal_of_isWritable (told.free free rfl))⟩

/-- The finding on a drive flags one that is low. -/
theorem flagged_findingOn_iff {drive : QueriedDrive} {finding : Finding}
    (found : findingOn config drive = .ok finding) :
    finding.flagged = true ↔ IsLow (config.integer .minFreeDiskSpace) drive := by
  obtain ⟨mountPoint, failure | free⟩ := drive
  · obtain ⟨text, -, made⟩ := exists_of_bind_eq_ok found
    obtain rfl := Except.ok.inj made
    exact iff_of_false Bool.false_ne_true nofun
  · obtain ⟨text, -, made⟩ := exists_of_bind_eq_ok found
    obtain rfl := Except.ok.inj made
    simp [IsLow]

/-- **The rule finds something exactly when all drives can be told of.** -/
theorem exists_freeSpaceOf_iff (drives : List QueriedDrive) :
    (∃ finding, freeSpaceOf config drives = .ok finding) ↔ ∀ drive ∈ drives, IsTold drive := by
  have findings_iff : (∃ finding, freeSpaceOf config drives = .ok finding) ↔
      ∃ findings, drives.mapM (findingOn config) = .ok findings := by
    constructor
    · rintro ⟨finding, found⟩
      obtain ⟨findings, told, -⟩ := exists_of_bind_eq_ok found
      exact ⟨findings, told⟩
    · rintro ⟨findings, told⟩
      exact ⟨_, congrArg (· >>= _) told⟩
  rw [findings_iff, exists_mapM_eq_ok_iff]
  exact forall₂_congr fun drive _ => exists_findingOn_iff drive

/-- **The drives that are flagged.** -/
theorem flagged_freeSpaceOf_iff {drives : List QueriedDrive} {finding : Finding}
    (found : freeSpaceOf config drives = .ok finding) :
    finding.flagged = true ↔ ∃ drive ∈ drives, IsLow (config.integer .minFreeDiskSpace) drive := by
  obtain ⟨findings, told, made⟩ := exists_of_bind_eq_ok found
  obtain rfl := Except.ok.inj made
  rw [List.any_eq_true]
  constructor
  · rintro ⟨one, member, flagged⟩
    obtain ⟨drive, among, foundOn⟩ := (mem_iff_of_mapM told one).1 member
    exact ⟨drive, among, (flagged_findingOn_iff foundOn).1 flagged⟩
  · rintro ⟨drive, among, low⟩
    obtain ⟨one, foundOn⟩ := exists_mapM_eq_ok_iff.1 ⟨findings, told⟩ drive among
    exact ⟨one, (mem_iff_of_mapM told one).2 ⟨drive, among, foundOn⟩, (flagged_findingOn_iff foundOn).2 low⟩

/-- The line about a drive that can be told of. -/
def lineOn (config : Config) (drive : QueriedDrive) : List Char :=
  match findingOn config drive with
  | .ok finding => finding.diagnosis.toList
  | .error _ => []

/-- The line about a drive whose query failed. -/
def failedLine (mountPoint written : String) : List Char :=
  s!"Failed to get free space on {mountPoint}: {written}".toList

theorem lineOn_of_written {mountPoint text : String} {failure : Failure} (written : failure.written = .ok text) :
    lineOn config (mountPoint, .error failure) = failedLine mountPoint text := by
  have found : findingOn config (mountPoint, .error failure) =
      .ok ⟨false, s!"Failed to get free space on {mountPoint}: {text}"⟩ := congrArg (· >>= _) written
  unfold lineOn
  rw [found]
  rfl

theorem failedLine_eq_word_append (mountPoint text : String) :
    failedLine mountPoint text = "Failed".toList ++ (" to get free space on " ++ mountPoint ++ ": " ++ text).toList := by
  rw [← String.toList_append]
  refine congrArg String.toList ?_
  show "Failed to get free space on " ++ mountPoint ++ ": " ++ text = _
  rw [← String.append_assoc]
  rfl

theorem exists_failedLine_eq_append_word (mountPoint : String) {error : ReportedError} {text : String}
    (written : error.written = .ok text) : ∃ front, failedLine mountPoint text = front ++ ")".toList := by
  obtain ⟨row, -, made⟩ := exists_of_bind_eq_ok written
  obtain ⟨start, rfl⟩ : ∃ start, text = start ++ ")" := ⟨error.category ++ "(" ++ row, (Except.ok.inj made).symm⟩
  refine ⟨("Failed to get free space on " ++ mountPoint ++ ": " ++ start).toList, ?_⟩
  rw [← String.toList_append, String.append_assoc]
  rfl

theorem failedLine_ne_nil (mountPoint text : String) : failedLine mountPoint text ≠ [] := by
  rw [failedLine_eq_word_append]
  exact List.append_ne_nil_of_left_ne_nil (by decide) _

theorem trimmed_append_failedLine_append (before : List Char) (mountPoint : String) {error : ReportedError}
    {text : String} (written : error.written = .ok text) (after : List Char) :
    Text.trimmed (before ++ failedLine mountPoint text ++ after) =
      Text.trimmedStart before ++ failedLine mountPoint text ++ Text.trimmedEnd after := by
  obtain ⟨front, ends⟩ := exists_failedLine_eq_append_word mountPoint written
  exact Text.trimmed_append_append before after (failedLine_eq_word_append mountPoint text) (by decide) (by decide)
    ends (by decide) (by decide)

/-- The lines of the findings are those of the drives. -/
theorem map_lineOn {drives : List QueriedDrive} {findings : List Finding}
    (told : drives.mapM (findingOn config) = .ok findings) :
    drives.map (lineOn config) = findings.map fun finding => finding.diagnosis.toList := by
  have pairs := mapM_eq_ok_iff.1 told
  clear told
  induction pairs with
  | nil => rfl
  | @cons drive finding drives findings found _ ih =>
    have line_eq : lineOn config drive = finding.diagnosis.toList := by
      unfold lineOn
      rw [found]
    rw [List.map_cons, List.map_cons, line_eq, ih]

/-- What is said on some drives is the text of their lines, unless that is blank. -/
theorem toList_diagnosis_freeSpaceOf {drives : List QueriedDrive} {finding : Finding}
    (found : freeSpaceOf config drives = .ok finding)
    (visible : Text.trimmed (['\n'].intercalate (drives.map (lineOn config))) ≠ []) :
    finding.diagnosis.toList = Text.trimmed (['\n'].intercalate (drives.map (lineOn config))) := by
  obtain ⟨findings, told, made⟩ := exists_of_bind_eq_ok found
  obtain rfl := Except.ok.inj made
  have lines : (joinLines (findings.map Finding.diagnosis)).toList =
      ['\n'].intercalate (drives.map (lineOn config)) := by
    unfold joinLines
    rw [String.toList_intercalate, List.map_map, map_lineOn told]
    rfl
  unfold Text.trim
  dsimp only
  rw [lines, if_neg fun blank => visible ?_, String.toList_ofList]
  exact String.ofList_eq_empty_iff.1 blank

/-- **The line of a drive whose query failed** stands between those of the other ones, as it is. -/
theorem toList_diagnosis_of_failed {before after : List QueriedDrive} {mountPoint : String} {error : ReportedError}
    {text : String} (written : error.written = .ok text) {finding : Finding}
    (found : freeSpaceOf config (before ++ (mountPoint, .error (.reported error)) :: after) = .ok finding) :
    finding.diagnosis.toList =
      Text.trimmedStart (before.flatMap (lineOn config · ++ ['\n'])) ++ failedLine mountPoint text ++
        Text.trimmedEnd (after.flatMap (['\n'] ++ lineOn config ·)) := by
  have whole : Text.trimmed (['\n'].intercalate
      ((before ++ (mountPoint, .error (.reported error)) :: after).map (lineOn config))) =
      Text.trimmedStart (before.flatMap (lineOn config · ++ ['\n'])) ++ failedLine mountPoint text ++
        Text.trimmedEnd (after.flatMap (['\n'] ++ lineOn config ·)) := by
    rw [List.map_append, List.map_cons, Text.intercalate_append_cons, List.flatMap_map, List.flatMap_map,
      lineOn_of_written (show Failure.written (.reported error) = .ok text from written)]
    exact trimmed_append_failedLine_append _ mountPoint written _
  rw [toList_diagnosis_freeSpaceOf found, whole]
  rw [whole]
  exact List.append_ne_nil_of_left_ne_nil
    (List.append_ne_nil_of_right_ne_nil _ (failedLine_ne_nil mountPoint text)) _

end Rules

/-! ### Physical memory and swap -/

/-- The percentage that is used of physical memory and swap together. Swap counts when it has a size. -/
def virtualPercent (physical : MemoryUsage) : Option MemoryUsage → Int
  | none => physical.used * 100 / physical.max
  | some swap =>
    if 0 < swap.max then (physical.used + swap.used) * 100 / (physical.max + swap.max)
    else physical.used * 100 / physical.max

section Memory

variable {physical : MemoryUsage} {percent : Int}

/-- **The percentage of both lies between the percentages of the two.** -/
theorem virtualPercent_between {swap : MemoryUsage} {swapPercent : Int}
    (known : physical.usedPercent? = some percent) (known' : swap.usedPercent? = some swapPercent) :
    min percent swapPercent ≤ virtualPercent physical (some swap) ∧
      virtualPercent physical (some swap) ≤ max percent swapPercent := by
  obtain ⟨positive, rfl⟩ := MemoryUsage.percentOfMax?_eq_some_iff.1 known
  obtain ⟨positive', rfl⟩ := MemoryUsage.percentOfMax?_eq_some_iff.1 known'
  have both : virtualPercent physical (some swap) =
      (physical.used * 100 + swap.used * 100) / (physical.max + swap.max) := by
    unfold virtualPercent
    dsimp only
    rw [if_pos positive', Int.add_mul]
  rw [both]
  exact ⟨min_ediv_le_ediv_add positive positive', ediv_add_le_max_ediv positive positive'⟩

theorem virtualPercent_alone {swap : Option MemoryUsage} (uncounted : ∀ usage ∈ swap, usage.usedPercent? = none)
    (known : physical.usedPercent? = some percent) : virtualPercent physical swap = percent := by
  obtain ⟨-, rfl⟩ := MemoryUsage.percentOfMax?_eq_some_iff.1 known
  cases swap with
  | none => rfl
  | some swap =>
    have empty := (swap.percentOfMax?_eq_none_iff swap.used).1 (uncounted swap rfl)
    exact if_neg (Int.not_lt.2 empty)

end Memory

namespace Rules

variable {config : Config}

theorem flagged_hostMemoryFindingOf_iff (physical : MemoryUsage) (swap : Option MemoryUsage) :
    (hostMemoryFindingOf config physical swap).flagged = true ↔
      physical.committed ≠ physical.used ∧
        config.integer .virtualMemoryThreshold ≤ virtualPercent physical swap := by
  unfold hostMemoryFindingOf virtualPercent
  cases swap with
  | none => simp
  | some swap =>
    by_cases counts : 0 < swap.max <;> simp [counts]

theorem suffix_joinLines (lines : List String) (last : String) :
    last.toList <:+ (joinLines (lines ++ [last])).toList := by
  unfold joinLines
  rw [String.toList_intercalate, List.map_append, List.map_cons, List.map_nil, Text.intercalate_append_cons,
    List.flatMap_nil, List.append_nil]
  exact List.suffix_append _ _

/-- What is said on the memory of the host ends with the percentage that is compared. -/
theorem suffix_diagnosis_hostMemoryFindingOf (physical : MemoryUsage) (swap : Option MemoryUsage) :
    (s!"Total virtual memory usage: {virtualPercent physical swap}%").toList <:+
      (hostMemoryFindingOf config physical swap).diagnosis.toList := by
  have last (lines : List String) (first second last : String) :
      last.toList <:+ (joinLines (lines ++ [first, second, last])).toList := by
    rw [List.append_cons, List.append_cons]
    exact suffix_joinLines _ last
  unfold hostMemoryFindingOf virtualPercent
  cases swap with
  | none =>
    dsimp only
    exact last _ _ _ _
  | some swap =>
    dsimp only
    split
    · exact last _ _ _ _
    · exact last _ _ _ _

/-- What the rule on the memory of the host finds, given what is known of it. -/
def hostMemoryOf (config : Config) (physical swap : Option MemoryUsage) : Finding :=
  match physical with
  | none => hostMemoryFinding.unsupported
  | some usage => if usage.max ≤ 0 then hostMemoryFinding.unsupported else hostMemoryFindingOf config usage swap

theorem hostMemoryOf_of_known {usage : MemoryUsage} (known : 0 < usage.max) (swap : Option MemoryUsage) :
    hostMemoryOf config (some usage) swap = hostMemoryFindingOf config usage swap :=
  if_neg (Int.not_le.2 known)

theorem flagged_hostMemoryOf_iff (physical swap : Option MemoryUsage) :
    (hostMemoryOf config physical swap).flagged = true ↔ ∃ usage, physical = some usage ∧ 0 < usage.max ∧
      usage.committed ≠ usage.used ∧ config.integer .virtualMemoryThreshold ≤ virtualPercent usage swap := by
  cases physical with
  | none => exact iff_of_false nofun nofun
  | some usage =>
    simp only [Option.some.injEq, exists_eq_left']
    by_cases known : 0 < usage.max
    · rw [hostMemoryOf_of_known known, flagged_hostMemoryFindingOf_iff, and_iff_right known]
    · have unsupported : hostMemoryOf config (some usage) swap = hostMemoryFinding.unsupported :=
        if_pos (Int.not_lt.1 known)
      rw [unsupported]
      exact iff_of_false nofun fun flagged => known flagged.1

/-- The rule asks for swap only when the size of the physical memory is known. -/
theorem run_hostMemoryFinding {sources : Sources} {machine after : Machine} {physical swap : Option MemoryUsage}
    (answered : sources.physicalMemory.run.run machine = (.ok physical, after))
    (answered' : ∀ usage, physical = some usage → 0 < usage.max → (sources.swap.run.run after).1 = .ok swap) :
    ((hostMemoryFinding config sources).run.run machine).1 = .ok (hostMemoryOf config physical swap) := by
  unfold hostMemoryFinding
  rw [run_bind_of_ok answered]
  cases physical with
  | none => rfl
  | some usage =>
    unfold hostMemoryOf
    dsimp only
    split
    · rfl
    · rename_i known
      rw [run_bind_of_ok (Prod.ext (answered' usage rfl (Int.not_le.1 known)) rfl)]
      rfl

end Rules

/-! ### The reports -/

/-- **What the report on free space says** about some drives. -/
structure FreeSpaceReport (config : Config) (drives : List QueriedDrive) (report : Report) : Prop where
  flagged_iff : report.flagged = true ↔ ∃ drive ∈ drives, IsLow (config.integer .minFreeDiskSpace) drive
  /-- A drive whose query failed neither sets the flag nor takes it away. -/
  flagged_iff_others : ∀ before mountPoint failure after, drives = before ++ (mountPoint, .error failure) :: after →
    (report.flagged = true ↔ ∃ drive ∈ before ++ after, IsLow (config.integer .minFreeDiskSpace) drive)
  /-- Its line stands between those of the drives before it and behind it. -/
  diagnosis_around : ∀ before mountPoint error after,
    drives = before ++ (mountPoint, .error (.reported error)) :: after →
    ∃ text, error.written = .ok text ∧ report.diagnosis.toList =
      Text.trimmedStart (before.flatMap (Rules.lineOn config · ++ ['\n'])) ++ Rules.failedLine mountPoint text ++
        Text.trimmedEnd (after.flatMap (['\n'] ++ Rules.lineOn config ·))

theorem FreeSpaceReport.of {config : Config} {drives : List QueriedDrive} {finding : Finding} {report : Report}
    (found : Rules.freeSpaceOf config drives = .ok finding) (flagged_eq : report.flagged = finding.flagged)
    (diagnosis_eq : report.diagnosis = finding.diagnosis) : FreeSpaceReport config drives report := by
  have flagged_iff : report.flagged = true ↔
      ∃ drive ∈ drives, IsLow (config.integer .minFreeDiskSpace) drive := by
    rw [flagged_eq, Rules.flagged_freeSpaceOf_iff found]
  refine ⟨flagged_iff, ?_, ?_⟩
  · rintro before mountPoint failure after rfl
    have notLow : ¬ IsLow (config.integer .minFreeDiskSpace) (mountPoint, .error failure) := nofun
    rw [flagged_iff]
    simp only [List.mem_append, List.mem_cons, or_and_right, exists_or, exists_eq_left, notLow, false_or]
  · rintro before mountPoint error after rfl
    have told := (Rules.exists_freeSpaceOf_iff _).1 ⟨finding, found⟩ (mountPoint, .error (.reported error)) (by simp)
    obtain ⟨text, written⟩ := told.failure _ rfl
    refine ⟨text, written, ?_⟩
    rw [diagnosis_eq]
    exact Rules.toList_diagnosis_of_failed written found

/-- **What the report on the memory of the host says**, given the physical memory and swap. -/
structure HostMemoryReport (config : Config) (physical swap : Option MemoryUsage) (report : Report) : Prop where
  flagged_iff : report.flagged = true ↔ ∃ usage, physical = some usage ∧ 0 < usage.max ∧
    usage.committed ≠ usage.used ∧ config.integer .virtualMemoryThreshold ≤ virtualPercent usage swap
  /-- The percentage that is compared is told. -/
  told : ∀ usage, physical = some usage → 0 < usage.max →
    (s!"Total virtual memory usage: {virtualPercent usage swap}%").toList <:+ report.diagnosis.toList
  /-- It lies between the percentages of physical memory and swap. -/
  between : ∀ usage percent swapUsage swapPercent, physical = some usage → usage.usedPercent? = some percent →
    swap = some swapUsage → swapUsage.usedPercent? = some swapPercent →
    min percent swapPercent ≤ virtualPercent usage swap ∧ virtualPercent usage swap ≤ max percent swapPercent
  /-- It is that of physical memory where swap has none. -/
  alone : ∀ usage percent, physical = some usage → usage.usedPercent? = some percent →
    (∀ swapUsage, swap = some swapUsage → swapUsage.usedPercent? = none) → virtualPercent usage swap = percent

theorem HostMemoryReport.of {config : Config} {physical swap : Option MemoryUsage} {report : Report}
    (flagged_eq : report.flagged = (Rules.hostMemoryOf config physical swap).flagged)
    (diagnosis_eq : report.diagnosis = (Rules.hostMemoryOf config physical swap).diagnosis) :
    HostMemoryReport config physical swap report := by
  refine ⟨?_, ?_, ?_, ?_⟩
  · rw [flagged_eq, Rules.flagged_hostMemoryOf_iff]
  · rintro usage rfl known
    rw [diagnosis_eq, Rules.hostMemoryOf_of_known known]
    exact Rules.suffix_diagnosis_hostMemoryFindingOf usage swap
  · rintro usage percent swapUsage swapPercent - known rfl known'
    exact virtualPercent_between known known'
  · rintro usage percent - known uncounted
    exact virtualPercent_alone uncounted known

namespace Analyzer

/-- **What the reports on the live host flag.** -/
structure WatchesLive (analyzer : Analyzer) (samples : List Sample) (machine : Machine) : Prop where
  /-- A report on pools flags exactly those that stay full. -/
  pools : ∀ pools, (analyzer.sources.pools.run.run machine).1 = .ok pools →
    ∃ report, ((analyzer.report samples .cleanup).run.run machine).1 = .ok report ∧
      (report.flagged = true ↔ ∃ pool ∈ pools, pool.StaysFull (analyzer.config.integer .afterCollectionThreshold))
  /-- A report on drives is made where the threshold can be written, and tells of them if each can be told of. -/
  drives : ∀ mountPoints after, analyzer.sources.mountPoints.run.run machine = (.ok mountPoints, after) →
    Text.isWritable (analyzer.config.integer .minFreeDiskSpace) →
    (∀ drive ∈ analyzer.sources.queried after mountPoints, IsTold drive) →
    ∃ report, ((analyzer.report samples .freeSpace).run.run machine).1 = .ok report ∧
      FreeSpaceReport analyzer.config (analyzer.sources.queried after mountPoints) report
  /-- A drive that cannot be told of makes the rule fail, which then flags nothing. -/
  untold : ∀ mountPoints after, analyzer.sources.mountPoints.run.run machine = (.ok mountPoints, after) →
    Text.isWritable (analyzer.config.integer .minFreeDiskSpace) →
    ∀ drive ∈ analyzer.sources.queried after mountPoints, ¬ IsTold drive →
      ∃ report, ((analyzer.report samples .freeSpace).run.run machine).1 = .ok report ∧ report.flagged = false ∧
        ∃ fault : NumeralFault, report.diagnosis = "Failed to evaluate: " ++ fault.message
  /-- Swap is asked for only where the size of the physical memory is known. -/
  memory : ∀ physical swap after, analyzer.sources.physicalMemory.run.run machine = (.ok physical, after) →
    (∀ usage, physical = some usage → 0 < usage.max → (analyzer.sources.swap.run.run after).1 = .ok swap) →
    ∃ report, ((analyzer.report samples .hostMemory).run.run machine).1 = .ok report ∧
      HostMemoryReport analyzer.config physical swap report

/-- The rule on free space is described with its threshold. -/
theorem exists_description_freeSpace {config : Config} (plan : SamplingPlan)
    (short : Text.isWritable (config.integer .minFreeDiskSpace)) :
    ∃ text, description config plan .freeSpace = .ok text := by
  unfold description
  rw [Text.decimal_of_isWritable short]
  exact ⟨_, rfl⟩

section FreeSpace

variable {analyzer : Analyzer} {machine after : Machine} {mountPoints : List String}
  (answered : analyzer.sources.mountPoints.run.run machine = (.ok mountPoints, after))
  (short : Text.isWritable (analyzer.config.integer .minFreeDiskSpace))
include answered short

theorem exists_freeSpaceReport (told : ∀ drive ∈ analyzer.sources.queried after mountPoints, IsTold drive)
    (samples : List Sample) :
    ∃ report, ((analyzer.report samples .freeSpace).run.run machine).1 = .ok report ∧
      FreeSpaceReport analyzer.config (analyzer.sources.queried after mountPoints) report := by
  obtain ⟨finding, found⟩ : ∃ finding, Rules.freeSpaceOf analyzer.config _ = .ok finding :=
    (Rules.exists_freeSpaceOf_iff _).2 told
  obtain ⟨text, described⟩ := exists_description_freeSpace analyzer.plan short
  have ends : ((analyzer.finding samples .freeSpace).run.run machine).1 = .ok finding := by
    refine (Rules.run_freeSpaceFinding answered).trans ?_
    rw [found]
    rfl
  obtain ⟨report, reported, -, flagged_eq, diagnosis_eq⟩ := exists_report_of_finding ends described
  exact ⟨report, reported, .of found flagged_eq diagnosis_eq⟩

/-- One drive that cannot be told of makes the rule fail. -/
theorem exists_report_of_untold {drive : QueriedDrive} (among : drive ∈ analyzer.sources.queried after mountPoints)
    (untold : ¬ IsTold drive) (samples : List Sample) :
    ∃ report, ((analyzer.report samples .freeSpace).run.run machine).1 = .ok report ∧ report.flagged = false ∧
      ∃ fault : NumeralFault, report.diagnosis = "Failed to evaluate: " ++ fault.message := by
  obtain ⟨text, described⟩ := exists_description_freeSpace analyzer.plan short
  cases outcome : Rules.freeSpaceOf analyzer.config (analyzer.sources.queried after mountPoints) with
  | ok finding => exact absurd ((Rules.exists_freeSpaceOf_iff _).1 ⟨finding, outcome⟩ drive among) untold
  | error fault =>
    have fails : ((analyzer.finding samples .freeSpace).run.run machine).1 = .error (.numeral fault) := by
      refine (Rules.run_freeSpaceFinding answered).trans ?_
      rw [outcome]
      rfl
    obtain ⟨report, reported, -, unflagged, diagnosis_eq⟩ := exists_report_of_failure fails rfl described
    exact ⟨report, reported, unflagged, fault, diagnosis_eq⟩

end FreeSpace

/-- **What the reports on the live host flag**, whatever the host tells. -/
theorem watchesLive (analyzer : Analyzer) (samples : List Sample) (machine : Machine) :
    analyzer.WatchesLive samples machine := by
  refine ⟨fun pools answered => ?_, fun mountPoints after answered short told => ?_,
    fun mountPoints after answered short drive among untold => ?_, fun physical swap after answered answered' => ?_⟩
  · have ends : ((analyzer.finding samples .cleanup).run.run machine).1 =
        .ok (Rules.cleanupFindingOf analyzer.config pools) := Rules.run_cleanupFinding answered
    obtain ⟨report, reported, -, flagged_eq, -⟩ := exists_report_of_finding ends rfl
    refine ⟨report, reported, ?_⟩
    rw [flagged_eq, Rules.flagged_cleanupFindingOf_iff_staysFull]
  · exact exists_freeSpaceReport answered short told samples
  · exact exists_report_of_untold answered short among untold samples
  · have ends : ((analyzer.finding samples .hostMemory).run.run machine).1 =
        .ok (Rules.hostMemoryOf analyzer.config physical swap) := Rules.run_hostMemoryFinding answered answered'
    obtain ⟨report, reported, -, flagged_eq, diagnosis_eq⟩ := exists_report_of_finding ends rfl
    exact ⟨report, reported, .of flagged_eq diagnosis_eq⟩

/-- A host in trouble: its pool stays full, its second drive has little free space while the first one does not
answer, and its memory is nearly used up. -/
def troubled : Sources where
  pools := pure [⟨"Process memory", none,
    some ⟨-1, 90, 90, 100, by decide, by decide, by decide, by decide, by decide⟩, true⟩]
  processMemory := pure none
  mountPoints := pure ["/mnt", "/"]
  freeSpace mountPoint := if mountPoint = "/" then pure 50 else throw (.reported HostFile.missingError)
  physicalMemory := pure (some ⟨-1, 900, 950, 1000, by decide, by decide, by decide, by decide, by decide⟩)
  swap := pure (some ⟨-1, 400, 400, 500, by decide, by decide, by decide, by decide, by decide⟩)

theorem watchesLive_troubled : ∀ topic ∈ [Topic.cleanup, .freeSpace, .hostMemory],
    ∃ report, (((⟨.default, .forSamples, troubled, .empty⟩ : Analyzer).report [] topic).run.run (.ofHost .bare)).1 =
      .ok report ∧ report.flagged = true := by
  have watches := watchesLive ⟨.default, .forSamples, troubled, .empty⟩ [] (.ofHost .bare)
  have told : ∀ drive ∈ troubled.queried (.ofHost .bare) ["/mnt", "/"], IsTold drive := by
    refine List.forall_mem_cons.2 ⟨⟨nofun, fun failure same => ?_⟩, List.forall_mem_singleton.2 ⟨fun free same => ?_, nofun⟩⟩
    · obtain rfl := Except.error.inj same
      exact ⟨"FileNotFoundError(2, 'No such file or directory')", by decide +kernel⟩
    · obtain rfl := Except.ok.inj same
      decide +kernel
  obtain ⟨cleanup, cleanup_made, cleanup_iff⟩ := watches.pools _ rfl
  obtain ⟨freeSpace, freeSpace_made, drives⟩ := watches.drives _ _ rfl (by decide +kernel) told
  obtain ⟨hostMemory, hostMemory_made, memory⟩ := watches.memory _ _ _ rfl fun _ _ _ => rfl
  refine List.forall_mem_cons.2 ⟨⟨cleanup, cleanup_made, cleanup_iff.2 ?_⟩, List.forall_mem_cons.2
    ⟨⟨freeSpace, freeSpace_made, drives.flagged_iff.2 ?_⟩, List.forall_mem_singleton.2
      ⟨hostMemory, hostMemory_made, memory.flagged_iff.2 ?_⟩⟩⟩
  · exact ⟨_, List.mem_singleton.2 rfl, rfl, _, rfl, by decide, by decide⟩
  · exact ⟨("/", .ok 50), List.mem_cons_of_mem _ (List.mem_singleton.2 rfl), 50, rfl, by decide⟩
  · exact ⟨_, rfl, by decide, by decide, by decide⟩

/-- A host with little free space on its first drive, and on its second one more than can be written. -/
def vast : Sources :=
  { blank with
    mountPoints := pure ["/", "/vast"]
    freeSpace := fun mountPoint => pure (if mountPoint = "/" then 1 else (Nat.pow 10 Text.mostDigits : Nat)) }

/-- **A drive with too much free space to be written hides one that has too little.** -/
theorem freeSpace_of_vast :
    Config.default.Valid ∧
      (∃ drive ∈ vast.queried (.ofHost .bare) ["/", "/vast"], IsLow (Config.default.integer .minFreeDiskSpace) drive) ∧
      ∃ report, (((⟨.default, .forSamples, vast, .empty⟩ : Analyzer).report [] .freeSpace).run.run (.ofHost .bare)).1 =
        .ok report ∧ report.flagged = false := by
  refine ⟨Config.valid_default, ⟨("/", .ok 1), List.mem_cons_self, 1, rfl, by decide⟩, ?_⟩
  have untold : ¬ IsTold ("/vast", .ok (Nat.pow 10 Text.mostDigits : Nat)) :=
    fun told => Text.not_isWritable_pow (told.free _ rfl)
  have among : ("/vast", .ok (Nat.pow 10 Text.mostDigits : Nat)) ∈ vast.queried (.ofHost .bare) ["/", "/vast"] :=
    List.mem_cons_of_mem _ List.mem_cons_self
  have answered : (⟨.default, .forSamples, vast, .empty⟩ : Analyzer).sources.mountPoints.run.run (.ofHost .bare) =
    (.ok ["/", "/vast"], .ofHost .bare) := rfl
  obtain ⟨report, reported, unflagged, -⟩ := exists_report_of_untold answered (by decide +kernel) among untold []
  exact ⟨report, reported, unflagged⟩

end Analyzer

end HostWatch
