/-
**The counters of a host are read as they are written.**

Among other lines, the text has one with the counters of all cores together and one for each core. A line of a core
and that of all cores begin alike; the blank behind the common beginning tells them apart. Further columns and other
lines are passed over, and the cores keep their order. Only an integer of too many digits cannot be read.

* `CpuLines.parse_eq_ok_iff`: **what is read of any text**, the lines of cores apart from those of all cores.
* `CpuRow`, `StatRow`, `CpuFile`: what stands in such a text, line by line.
* `CpuRow.parse_text_eq_ok_iff`: **a line is read as it is written.**
* `CpuFile.reads_counters`: **so is the whole text**; without a line for all cores it is refused.
-/

import HostWatch.Host.CpuLines
import HostWatch.Proofs.Outcomes
import HostWatch.Proofs.Text.Words

namespace HostWatch

open Text

/-! ### Lines of any text -/

namespace CpuLines

/-- Whether a line counts the ticks of all cores together. -/
def isOverall (line : List Char) : Bool := (lineStart ++ [' ']).isPrefixOf line

/-- Whether a line counts the ticks of one core. -/
def isCore (line : List Char) : Bool := lineStart.isPrefixOf line && !isOverall line

def overallLines (text : List Char) : List (List Char) := (lines text).filter isOverall

def coreLines (text : List Char) : List (List Char) := (lines text).filter isCore

/-- The counters on some lines, one by one. -/
def AreOn (ticks : List CpuTicks) (lines : List (List Char)) : Prop :=
  List.Forall₂ (fun line ticks => CpuTicks.parse line = .ok ticks) lines ticks

variable {found result : Option CpuTicks × List CpuTicks}

theorem addLine_bind_of_isOverall {line : List Char} (overall : isOverall line = true)
    {next : Option CpuTicks × List CpuTicks → Except Failure (Option CpuTicks × List CpuTicks)} :
    addLine found line >>= next = .ok result ↔
      ∃ ticks, CpuTicks.parse line = .ok ticks ∧ next (some ticks, found.2) = .ok result := by
  have added : addLine found line = do return (some (← CpuTicks.parse line), found.2) := if_pos overall
  rw [added]
  cases CpuTicks.parse line <;> simp [bind, Except.bind, pure, Except.pure]

theorem addLine_bind_of_isCore {line : List Char} (core : isCore line = true)
    {next : Option CpuTicks × List CpuTicks → Except Failure (Option CpuTicks × List CpuTicks)} :
    addLine found line >>= next = .ok result ↔
      ∃ ticks, CpuTicks.parse line = .ok ticks ∧ next (found.1, found.2 ++ [ticks]) = .ok result := by
  unfold isCore at core
  rw [Bool.and_eq_true, Bool.not_eq_true'] at core
  have added : addLine found line = do return (found.1, found.2 ++ [← CpuTicks.parse line]) :=
    (if_neg (Bool.not_eq_true _ ▸ core.2)).trans (if_pos core.1)
  rw [added]
  cases CpuTicks.parse line <;> simp [bind, Except.bind, pure, Except.pure]

theorem addLine_of_other {line : List Char} (notOverall : isOverall line = false) (notCore : isCore line = false) :
    addLine found line = .ok found := by
  unfold isCore at notCore
  rw [notOverall, Bool.not_false, Bool.and_true] at notCore
  unfold isOverall at notOverall
  unfold addLine
  rw [notOverall, notCore]
  rfl

theorem error_of_addLine {line : List Char} {failure : Failure} (stops : addLine found line = .error failure) :
    CpuTicks.parse line = .error failure := by
  unfold addLine at stops
  split at stops
  · rcases bind_eq_error_iff.1 stops with fails | ⟨ticks, -, ends⟩
    · exact fails
    · cases ends
  · split at stops
    · rcases bind_eq_error_iff.1 stops with fails | ⟨ticks, -, ends⟩
      · exact fails
      · cases ends
    · cases stops

theorem areOn_filter_of_false {ticks : List CpuTicks} {p : List Char → Bool} {line : List Char}
    (skipped : p line = false) (rest : List (List Char)) :
    AreOn ticks ((line :: rest).filter p) ↔ AreOn ticks (rest.filter p) := by
  rw [List.filter_cons_of_neg (by rw [skipped]; exact Bool.false_ne_true)]

theorem areOn_filter_of_true {ticks : List CpuTicks} {p : List Char → Bool} {line : List Char} (kept : p line = true)
    (rest : List (List Char)) : AreOn ticks ((line :: rest).filter p) ↔
      ∃ first others, CpuTicks.parse line = .ok first ∧ AreOn others (rest.filter p) ∧ ticks = first :: others := by
  unfold AreOn
  rw [List.filter_cons_of_pos kept, List.forall₂_cons_left_iff]

theorem not_isCore_of_isOverall {line : List Char} (overall : isOverall line = true) : isCore line = false := by
  unfold isCore
  rw [overall, Bool.not_true, Bool.and_false]

/-- **The counters found are those on the lines**, the last line of all cores counting. -/
theorem foldlM_addLine_eq_ok_iff (all : List (List Char)) :
    all.foldlM addLine found = .ok result ↔
      ∃ overalls cores, AreOn overalls (all.filter isOverall) ∧ AreOn cores (all.filter isCore) ∧
        result = (overalls.getLast?.or found.1, found.2 ++ cores) := by
  induction all generalizing found with
  | nil =>
    constructor
    · intro ends
      refine ⟨[], [], .nil, .nil, ?_⟩
      rw [List.append_nil]
      exact (Except.ok.inj ends).symm
    · rintro ⟨_, _, ⟨⟩, ⟨⟩, rfl⟩
      rw [List.append_nil]
      rfl
  | cons line rest ih =>
    rw [List.foldlM_cons]
    cases overall : isOverall line with
    | true =>
      simp only [addLine_bind_of_isOverall overall, ih, areOn_filter_of_true overall,
        areOn_filter_of_false (not_isCore_of_isOverall overall)]
      constructor
      · rintro ⟨ticks, parsed, overalls, cores, areOverall, areCores, rfl⟩
        refine ⟨ticks :: overalls, cores, ⟨ticks, overalls, parsed, areOverall, rfl⟩, areCores, ?_⟩
        rw [List.getLast?_cons, Option.some_or, Option.or_some]
      · rintro ⟨_, cores, ⟨ticks, overalls, parsed, areOverall, rfl⟩, areCores, rfl⟩
        refine ⟨ticks, parsed, overalls, cores, areOverall, areCores, ?_⟩
        rw [List.getLast?_cons, Option.some_or, Option.or_some]
    | false =>
      cases core : isCore line with
      | true =>
        simp only [addLine_bind_of_isCore core, ih, areOn_filter_of_false overall, areOn_filter_of_true core]
        constructor
        · rintro ⟨ticks, parsed, overalls, cores, areOverall, areCores, rfl⟩
          refine ⟨overalls, ticks :: cores, areOverall, ⟨ticks, cores, parsed, areCores, rfl⟩, ?_⟩
          rw [List.append_assoc, List.singleton_append]
        · rintro ⟨overalls, _, areOverall, ⟨ticks, cores, parsed, areCores, rfl⟩, rfl⟩
          refine ⟨ticks, parsed, overalls, cores, areOverall, areCores, ?_⟩
          rw [List.append_assoc, List.singleton_append]
      | false =>
        simp only [addLine_of_other overall core, areOn_filter_of_false overall, areOn_filter_of_false core]
        exact ih

/-- **What is read of any text**: the counters on its last line of all cores, and those on its lines of cores. -/
theorem parse_eq_ok_iff {text : List Char} {read : CpuLines} :
    parse text = .ok read ↔ ∃ overalls, AreOn overalls (overallLines text) ∧ overalls.getLast? = some read.overall ∧
      AreOn read.cores (coreLines text) := by
  unfold parse
  constructor
  · intro ends
    obtain ⟨result, found, ends⟩ := exists_of_bind_eq_ok ends
    obtain ⟨overalls, cores, areOverall, areCores, rfl⟩ := (foldlM_addLine_eq_ok_iff _).1 found
    rw [Option.or_none, List.nil_append] at ends
    cases last : overalls.getLast? with
    | none =>
      rw [last] at ends
      cases ends
    | some overall =>
      rw [last] at ends
      obtain rfl := Except.ok.inj ends
      exact ⟨overalls, areOverall, last, areCores⟩
  · rintro ⟨overalls, areOverall, last, areCores⟩
    have found : (lines text).foldlM addLine (none, []) = .ok (overalls.getLast?, read.cores) :=
      (foldlM_addLine_eq_ok_iff (lines text)).2
        ⟨overalls, read.cores, areOverall, areCores, by rw [Option.or_none, List.nil_append]⟩
    rw [found, last]
    rfl

/-- **What fails to be read is a line with counters.** -/
theorem exists_of_foldlM_addLine_eq_error {all : List (List Char)} {failure : Failure}
    (fails : all.foldlM addLine found = .error failure) :
    ∃ line ∈ all.filter isOverall ++ all.filter isCore, CpuTicks.parse line = .error failure := by
  induction all generalizing found with
  | nil => cases fails
  | cons line rest ih =>
    rw [List.foldlM_cons] at fails
    rcases bind_eq_error_iff.1 fails with stops | ⟨next, -, fails⟩
    · cases overall : isOverall line with
      | true =>
        refine ⟨line, List.mem_append_left _ (List.mem_filter.2 ⟨List.mem_cons_self, overall⟩), ?_⟩
        exact error_of_addLine stops
      | false =>
        cases core : isCore line with
        | true =>
          refine ⟨line, List.mem_append_right _ (List.mem_filter.2 ⟨List.mem_cons_self, core⟩), ?_⟩
          exact error_of_addLine stops
        | false =>
          rw [addLine_of_other overall core] at stops
          cases stops
    · obtain ⟨other, member, fails⟩ := ih fails
      have sub := List.sublist_cons_self line rest
      exact ⟨other, ((sub.filter _).append (sub.filter _)).subset member, fails⟩

/-- **Why a text is not read**: a line with counters is not, or there is none of all cores. -/
theorem parse_eq_error {text : List Char} {failure : Failure} (fails : parse text = .error failure) :
    (∃ line ∈ overallLines text ++ coreLines text, CpuTicks.parse line = .error failure) ∨
      failure = .missingOverallCpu ∧ overallLines text = [] := by
  rcases bind_eq_error_iff.1 fails with fails | ⟨result, found, fails⟩
  · exact .inl (exists_of_foldlM_addLine_eq_error fails)
  · obtain ⟨overalls, cores, areOverall, -, rfl⟩ := (foldlM_addLine_eq_ok_iff _).1 found
    rw [Option.or_none] at fails
    cases last : overalls.getLast? with
    | some overall =>
      rw [last] at fails
      cases fails
    | none =>
      rw [last] at fails
      rw [List.getLast?_eq_none_iff.1 last] at areOverall
      exact .inr ⟨(Except.error.inj fails).symm, List.forall₂_nil_right_iff.1 areOverall⟩

end CpuLines

/-! ### Lines as they are written -/

namespace CpuTicks

/-- The ticks in the order in which a line has them. -/
def counters (ticks : CpuTicks) : List Int := [ticks.user, ticks.nice, ticks.system, ticks.idle]

/-- No counter has too many digits to be read. -/
def IsShort (ticks : CpuTicks) : Prop := ∀ n ∈ ticks.counters, isWritable n = true

instance (ticks : CpuTicks) : Decidable ticks.IsShort := List.decidableBAll _ _

/-- A failure tells that a counter has too many digits. -/
def TooManyDigits (ticks : CpuTicks) (failure : Failure) : Prop :=
  ∃ n ∈ ticks.counters, isWritable n = false ∧
    failure = .numeral (.tooManyDigits (Nat.toDigits 10 n.natAbs).length)

end CpuTicks

/-- An integer is read back from its decimal text, unless it has too many digits. -/
theorem readInteger_decimal (n : Int) : readInteger (toString n).toList =
    if isWritable n then .ok n else .error (.numeral (.tooManyDigits (Nat.toDigits 10 n.natAbs).length)) := by
  have read := readInteger_toString n
  rw [trimmed_eq_self isBlank_of_mem_toString] at read
  unfold readInteger
  rw [read]
  split <;> rfl

theorem readInteger_decimal_eq_ok_iff {n m : Int} :
    readInteger (toString n).toList = .ok m ↔ isWritable n = true ∧ m = n := by
  rw [readInteger_decimal]
  split
  · rename_i writable
    exact ⟨fun read => ⟨writable, (Except.ok.inj read).symm⟩, fun is => is.2 ▸ rfl⟩
  · rename_i overlong
    exact ⟨nofun, fun is => absurd is.1 overlong⟩

theorem readInteger_decimal_eq_error {n : Int} {failure : Failure}
    (fails : readInteger (toString n).toList = .error failure) :
    isWritable n = false ∧ failure = .numeral (.tooManyDigits (Nat.toDigits 10 n.natAbs).length) := by
  rw [readInteger_decimal] at fails
  split at fails
  · cases fails
  · rename_i overlong
    exact ⟨Bool.not_eq_true _ ▸ overlong, (Except.error.inj fails).symm⟩

/-- **A line with the counters of a CPU.** -/
structure CpuRow where
  /-- The number of the core; the line of all cores together has none. -/
  core? : Option Nat
  ticks : CpuTicks
  /-- Further columns, with the blanks in front of them. -/
  more : List Char
  isWithinLine_more : IsWithinLine more
  apart : ∀ c, more.head? = some c → isBlank c = true

theorem isWithinLine_nil : IsWithinLine [] := nofun

/-- A line without further columns. -/
def CpuRow.plain (core? : Option Nat) (ticks : CpuTicks) : CpuRow := ⟨core?, ticks, [], isWithinLine_nil, nofun⟩

/-- The name of a core on its line. -/
def coreName (number : Nat) : List Char := CpuLines.lineStart ++ Nat.toDigits 10 number

namespace CpuRow

variable (row : CpuRow)

/-- What a line begins with: the blank is no part of a name. -/
def label : List Char :=
  match row.core? with
  | none => CpuLines.lineStart ++ [' ']
  | some number => coreName number

/-- Counters, each with a blank in front of it, and what stands behind them. -/
def columnsText (counters : List Int) (more : List Char) : List Char :=
  counters.flatMap (fun n => ' ' :: (toString n).toList) ++ more

def text : List Char := row.label ++ columnsText row.ticks.counters row.more

def name : List Char := (row.core?.map coreName).getD CpuLines.lineStart

theorem isBlank_head?_columnsText (counters : List Int) :
    ∀ c, (columnsText counters row.more).head? = some c → isBlank c = true :=
  isBlank_head?_flatMap (fun _ => isPadding_space) (fun _ => space_nonempty) row.apart counters

theorem toString_nonempty (n : Int) : (toString n).toList ≠ [] := by
  rw [toList_toString]
  exact List.append_ne_nil_of_right_ne_nil _ Nat.toDigits_ne_nil

theorem words_columnsText (counters : List Int) :
    words (columnsText counters row.more) = counters.map (fun n => (toString n).toList) ++ words row.more :=
  words_flatMap (fun _ => isPadding_space) (fun _ => space_nonempty) (fun _ => isBlank_of_mem_toString)
    toString_nonempty row.apart counters

theorem isSolid_lineStart : IsSolid CpuLines.lineStart := by decide

theorem isSolid_coreName (number : Nat) : IsSolid (coreName number) :=
  List.forall_mem_append.2 ⟨isSolid_lineStart, isSolid_of_isDigit isDigit_of_mem_toDigits⟩

/-- **The columns of a line**: a name, the counters, and further ones. -/
theorem words_text : words row.text =
    row.name :: (row.ticks.counters.map (fun n => (toString n).toList) ++ words row.more) := by
  have apart := row.isBlank_head?_columnsText row.ticks.counters
  have columns := row.words_columnsText row.ticks.counters
  unfold text label name
  cases row.core? with
  | none =>
    have blank : isBlank ' ' = true := by decide
    have start : CpuLines.lineStart ++ [' '] ++ columnsText row.ticks.counters row.more =
      CpuLines.lineStart ++ ' ' :: columnsText row.ticks.counters row.more := List.append_assoc ..
    have name : words CpuLines.lineStart = [CpuLines.lineStart] :=
      words_of_isSolid (List.cons_ne_nil _ _) isSolid_lineStart
    dsimp only
    rw [start, words_append_cons blank, name, columns]
    rfl
  | some number =>
    have nonempty : coreName number ≠ [] := List.append_ne_nil_of_left_ne_nil (List.cons_ne_nil _ _) _
    dsimp only
    rw [words_append nonempty (isSolid_coreName number) apart, columns]
    rfl

theorem parse_text : CpuTicks.parse row.text = do
    return ⟨← readInteger (toString row.ticks.user).toList, ← readInteger (toString row.ticks.nice).toList,
      ← readInteger (toString row.ticks.system).toList, ← readInteger (toString row.ticks.idle).toList⟩ := by
  unfold CpuTicks.parse
  rw [words_text]
  rfl

/-- **A line is read as it is written**, unless a counter has too many digits. -/
theorem parse_text_eq_ok_iff {ticks : CpuTicks} :
    CpuTicks.parse row.text = .ok ticks ↔ row.ticks.IsShort ∧ ticks = row.ticks := by
  rw [parse_text]
  constructor
  · intro parsed
    obtain ⟨user, userRead, parsed⟩ := exists_of_bind_eq_ok parsed
    obtain ⟨nice, niceRead, parsed⟩ := exists_of_bind_eq_ok parsed
    obtain ⟨system, systemRead, parsed⟩ := exists_of_bind_eq_ok parsed
    obtain ⟨idle, idleRead, parsed⟩ := exists_of_bind_eq_ok parsed
    obtain ⟨userShort, rfl⟩ := readInteger_decimal_eq_ok_iff.1 userRead
    obtain ⟨niceShort, rfl⟩ := readInteger_decimal_eq_ok_iff.1 niceRead
    obtain ⟨systemShort, rfl⟩ := readInteger_decimal_eq_ok_iff.1 systemRead
    obtain ⟨idleShort, rfl⟩ := readInteger_decimal_eq_ok_iff.1 idleRead
    refine ⟨?_, (Except.ok.inj parsed).symm⟩
    simp [CpuTicks.IsShort, CpuTicks.counters, userShort, niceShort, systemShort, idleShort]
  · rintro ⟨short, rfl⟩
    simp only [CpuTicks.IsShort, CpuTicks.counters, List.forall_mem_cons] at short
    obtain ⟨userShort, niceShort, systemShort, idleShort, -⟩ := short
    rw [readInteger_decimal_eq_ok_iff.2 ⟨userShort, rfl⟩, readInteger_decimal_eq_ok_iff.2 ⟨niceShort, rfl⟩,
      readInteger_decimal_eq_ok_iff.2 ⟨systemShort, rfl⟩, readInteger_decimal_eq_ok_iff.2 ⟨idleShort, rfl⟩]
    rfl

/-- **Nothing but a counter of too many digits keeps a line from being read.** -/
theorem tooManyDigits_of_parse_text {failure : Failure} (fails : CpuTicks.parse row.text = .error failure) :
    row.ticks.TooManyDigits failure := by
  have counter {n : Int} (member : n ∈ row.ticks.counters)
      (fails : readInteger (toString n).toList = .error failure) : row.ticks.TooManyDigits failure :=
    ⟨n, member, readInteger_decimal_eq_error fails⟩
  rw [parse_text] at fails
  rcases bind_eq_error_iff.1 fails with user | ⟨_, -, fails⟩
  · exact counter (by simp [CpuTicks.counters]) user
  rcases bind_eq_error_iff.1 fails with nice | ⟨_, -, fails⟩
  · exact counter (by simp [CpuTicks.counters]) nice
  rcases bind_eq_error_iff.1 fails with system | ⟨_, -, fails⟩
  · exact counter (by simp [CpuTicks.counters]) system
  rcases bind_eq_error_iff.1 fails with idle | ⟨_, -, ends⟩
  · exact counter (by simp [CpuTicks.counters]) idle
  · cases ends

theorem isWithinLine_text : IsWithinLine row.text := by
  have space : IsWithinLine [' '] := by decide
  have label : IsWithinLine row.label := by
    unfold CpuRow.label
    cases row.core? with
    | none => exact isSolid_lineStart.isWithinLine.append space
    | some number => exact (isSolid_coreName number).isWithinLine
  have counter (n : Int) : IsWithinLine (' ' :: (toString n).toList) :=
    space.append (IsSolid.isWithinLine isBlank_of_mem_toString)
  have columns : IsWithinLine (row.ticks.counters.flatMap fun n => ' ' :: (toString n).toList) :=
    List.forall_mem_flatMap.2 fun n _ => counter n
  exact label.append (columns.append row.isWithinLine_more)

/-- **The blank behind their common beginning tells the lines apart.** -/
theorem isOverall_text : CpuLines.isOverall row.text = row.core?.isNone := by
  unfold text label
  cases row.core? with
  | none => exact List.isPrefixOf_iff_prefix.2 (List.prefix_append _ _)
  | some number =>
    obtain ⟨c, rest, digits⟩ := List.exists_cons_of_ne_nil (Nat.toDigits_ne_nil (n := number) (b := 10))
    have digit : c.isDigit := isDigit_of_mem_toDigits c (digits ▸ List.mem_cons_self)
    have different : ' ' ≠ c := by
      rintro rfl
      exact absurd digit (by decide)
    unfold coreName
    dsimp only
    rw [digits]
    simp [CpuLines.isOverall, CpuLines.lineStart, List.isPrefixOf, different]

theorem isCore_text : CpuLines.isCore row.text = row.core?.isSome := by
  have start : CpuLines.lineStart.isPrefixOf row.text = true := by
    refine List.isPrefixOf_iff_prefix.2 (List.IsPrefix.trans ?_ (List.prefix_append row.label _))
    unfold label
    cases row.core? with
    | none => exact List.prefix_append _ _
    | some number => exact List.prefix_append _ _
  unfold CpuLines.isCore
  rw [start, isOverall_text, Bool.true_and]
  cases row.core? <;> rfl

end CpuRow

/-! ### Whole texts as they are written -/

/-- What may stand on a line. -/
inductive StatRow where
  | cpu (row : CpuRow)
  | other (text : List Char) (isWithinLine : IsWithinLine text)
      (different : CpuLines.lineStart.isPrefixOf text = false)

namespace StatRow

def text : StatRow → List Char
  | cpu row => row.text
  | other text _ _ => text

/-- The line of all cores together, if it is one. -/
def overall? : StatRow → Option CpuRow
  | cpu row => if row.core?.isNone then some row else none
  | other _ _ _ => none

/-- The line of one core, if it is one. -/
def core? : StatRow → Option CpuRow
  | cpu row => if row.core?.isSome then some row else none
  | other _ _ _ => none

theorem isWithinLine_text (row : StatRow) : IsWithinLine row.text := by
  cases row with
  | cpu row => exact row.isWithinLine_text
  | other text isWithinLine _ => exact isWithinLine

theorem guard_isOverall_text (row : StatRow) :
    Option.guard CpuLines.isOverall row.text = row.overall?.map CpuRow.text := by
  cases row with
  | cpu row =>
    unfold Option.guard text overall?
    dsimp only
    rw [row.isOverall_text]
    cases row.core?.isNone <;> rfl
  | other text _ different =>
    have notOverall : CpuLines.isOverall text = false := by
      rw [← Bool.not_eq_true] at different ⊢
      intro overall
      have start := (List.prefix_append CpuLines.lineStart [' ']).trans (List.isPrefixOf_iff_prefix.1 overall)
      exact different (List.isPrefixOf_iff_prefix.2 start)
    unfold Option.guard StatRow.text
    dsimp only
    rw [notOverall]
    rfl

theorem guard_isCore_text (row : StatRow) :
    Option.guard CpuLines.isCore row.text = row.core?.map CpuRow.text := by
  cases row with
  | cpu row =>
    unfold Option.guard text core?
    dsimp only
    rw [row.isCore_text]
    cases row.core?.isSome <;> rfl
  | other text _ different =>
    unfold Option.guard CpuLines.isCore StatRow.text
    dsimp only
    rw [different]
    rfl

end StatRow

/-- **A text with the counters of CPUs**: its lines, each but the last one with its end. -/
structure CpuFile where
  ended : List (StatRow × Char)
  isLineEnd : ∀ line ∈ ended, Text.isLineEnd line.2 = true
  last : StatRow

namespace CpuFile

variable (file : CpuFile)

def rows : List StatRow := file.ended.map Prod.fst ++ [file.last]

def text : List Char := joinLines (file.ended.map fun line => (line.1.text, line.2)) file.last.text

/-- The lines of all cores together. -/
def overallRows : List CpuRow := file.rows.filterMap StatRow.overall?

/-- The lines of single cores, in order. -/
def coreRows : List CpuRow := file.rows.filterMap StatRow.core?

/-- **Of the lines of the text those are kept that are written for it.** -/
theorem filter_lines_text {p : List Char → Bool} {kept : StatRow → Option CpuRow} (empty : p [] = false)
    (keeps : ∀ row : StatRow, Option.guard p row.text = (kept row).map CpuRow.text) :
    (lines file.text).filter p = (file.rows.filterMap kept).map CpuRow.text := by
  have nothing : Option.guard p [] = none := by
    unfold Option.guard
    rw [empty]
    rfl
  unfold text
  rw [← List.filterMap_eq_filter, filterMap_lines_joinLines nothing StatRow.isWithinLine_text file.isLineEnd,
    List.map_filterMap]
  exact List.filterMap_congr fun row _ => keeps row

theorem overallLines_text : CpuLines.overallLines file.text = file.overallRows.map CpuRow.text :=
  file.filter_lines_text rfl StatRow.guard_isOverall_text

theorem coreLines_text : CpuLines.coreLines file.text = file.coreRows.map CpuRow.text :=
  file.filter_lines_text rfl StatRow.guard_isCore_text

/-- No counter has too many digits to be read. -/
def IsShort : Prop := ∀ row ∈ file.overallRows ++ file.coreRows, row.ticks.IsShort

theorem areOn_map_text_iff {rows : List CpuRow} {ticks : List CpuTicks} :
    CpuLines.AreOn ticks (rows.map CpuRow.text) ↔
      (∀ row ∈ rows, row.ticks.IsShort) ∧ ticks = rows.map CpuRow.ticks := by
  unfold CpuLines.AreOn
  rw [List.forall₂_map_left_iff]
  simp only [CpuRow.parse_text_eq_ok_iff]
  exact forall₂_and_eq_iff

/-- **The text is read as it is written**, the last line of all cores counting. -/
theorem parse_text_eq_ok_iff {read : CpuLines} : CpuLines.parse file.text = .ok read ↔
    file.IsShort ∧ ∃ overall, file.overallRows.getLast? = some overall ∧
      read = ⟨overall.ticks, file.coreRows.map CpuRow.ticks⟩ := by
  rw [CpuLines.parse_eq_ok_iff, overallLines_text, coreLines_text]
  simp only [areOn_map_text_iff]
  unfold IsShort
  rw [List.forall_mem_append]
  constructor
  · rintro ⟨_, ⟨overallsShort, rfl⟩, last, coresShort, cores⟩
    rw [List.getLast?_map] at last
    obtain ⟨overall, last, overall_eq⟩ := Option.map_eq_some_iff.1 last
    refine ⟨⟨overallsShort, coresShort⟩, overall, last, ?_⟩
    rw [overall_eq, ← cores]
  · rintro ⟨⟨overallsShort, coresShort⟩, overall, last, rfl⟩
    refine ⟨_, ⟨overallsShort, rfl⟩, ?_, coresShort, rfl⟩
    rw [List.getLast?_map, last]
    rfl

/-- **Why the text is not read**: a counter has too many digits, or there is no line of all cores. -/
theorem parse_text_eq_error {failure : Failure} (fails : CpuLines.parse file.text = .error failure) :
    (∃ row ∈ file.overallRows ++ file.coreRows, row.ticks.TooManyDigits failure) ∨
      failure = .missingOverallCpu ∧ file.overallRows = [] := by
  rcases CpuLines.parse_eq_error fails with ⟨line, member, fails⟩ | ⟨missing, none⟩
  · rw [overallLines_text, coreLines_text, ← List.map_append] at member
    obtain ⟨row, written, rfl⟩ := List.mem_map.1 member
    exact .inl ⟨row, written, row.tooManyDigits_of_parse_text fails⟩
  · rw [overallLines_text] at none
    exact .inr ⟨missing, List.map_eq_nil_iff.1 none⟩

/-- The text without further columns or other lines: the counters of all cores, and below those of each core. -/
def plain (overall : CpuTicks) (cores : List (Nat × CpuTicks)) : CpuFile where
  ended := (.cpu (.plain none overall), '\n') ::
    cores.map fun (number, ticks) => (.cpu (.plain (some number) ticks), '\n')
  isLineEnd := by
    refine List.forall_mem_cons.2 ⟨rfl, fun line member => ?_⟩
    obtain ⟨core, -, rfl⟩ := List.mem_map.1 member
    rfl
  last := .other [] isWithinLine_nil rfl

theorem rows_plain (overall : CpuTicks) (cores : List (Nat × CpuTicks)) : (plain overall cores).rows =
    .cpu (.plain none overall) :: (cores.map fun core => .cpu (.plain (some core.1) core.2)) ++
      [.other [] isWithinLine_nil rfl] := by
  unfold rows plain
  rw [List.map_cons, List.map_map]
  rfl

theorem overallRows_plain (overall : CpuTicks) (cores : List (Nat × CpuTicks)) :
    (plain overall cores).overallRows = [.plain none overall] := by
  have none : (cores.map fun core => StatRow.cpu (.plain (some core.1) core.2)).filterMap StatRow.overall? = [] := by
    rw [List.filterMap_map]
    exact List.filterMap_eq_nil_iff.2 fun _ _ => rfl
  have first : StatRow.overall? (.cpu (.plain Option.none overall)) = some (.plain Option.none overall) := rfl
  unfold overallRows
  rw [rows_plain, List.filterMap_append, List.filterMap_cons_some first, none]
  rfl

theorem coreRows_plain (overall : CpuTicks) (cores : List (Nat × CpuTicks)) :
    (plain overall cores).coreRows = cores.map fun core => .plain (some core.1) core.2 := by
  have all : (cores.map fun core => StatRow.cpu (.plain (some core.1) core.2)).filterMap StatRow.core? =
      cores.map fun core => .plain (some core.1) core.2 := by
    rw [List.filterMap_map, ← List.filterMap_eq_map]
    rfl
  have first : StatRow.core? (.cpu (.plain none overall)) = none := rfl
  unfold coreRows
  rw [rows_plain, List.filterMap_append, List.filterMap_cons_none first, all]
  exact List.append_nil _

/-- **What is read of a text.** -/
structure ReadsCounters : Prop where
  /-- The counters are those on the lines, unless one of them has too many digits; with several lines of all cores
  the last one counts. -/
  counters_iff : ∀ read, CpuLines.parse file.text = .ok read ↔
    file.IsShort ∧ ∃ overall, file.overallRows.getLast? = some overall ∧
      read = ⟨overall.ticks, file.coreRows.map CpuRow.ticks⟩
  /-- Otherwise the text is refused: for such a counter, or for want of a line of all cores. -/
  refused : ∀ failure, CpuLines.parse file.text = .error failure → failure.kind = .wrongValue ∧
    ((∃ row ∈ file.overallRows ++ file.coreRows, row.ticks.TooManyDigits failure) ∨
      failure = .missingOverallCpu ∧ file.overallRows = [])

/-- **The counters of a host are read as they are written.** -/
theorem reads_counters : file.ReadsCounters := by
  refine ⟨fun _ => file.parse_text_eq_ok_iff, fun failure fails => ?_⟩
  have because := file.parse_text_eq_error fails
  refine ⟨?_, because⟩
  rcases because with ⟨row, -, n, -, -, rfl⟩ | ⟨rfl, -⟩ <;> rfl

/-! ### Too many digits -/

/-- Counters of which the first one has a digit too many. -/
def overlong : CpuTicks := ⟨(Nat.pow 10 mostDigits : Nat), 0, 0, 0⟩

/-- **A counter of too many digits is not read.** -/
theorem parse_of_overlongCounter : (∀ n ∈ overlong.counters, 0 ≤ n) ∧
    ∃ failure, CpuLines.parse (plain overlong []).text = .error failure ∧ failure.kind = .wrongValue := by
  have natural : ∀ n ∈ overlong.counters, 0 ≤ n :=
    List.forall_mem_cons.2 ⟨Int.natCast_nonneg _, (by decide : ∀ n ∈ ([0, 0, 0] : List Int), 0 ≤ n)⟩
  refine ⟨natural, ?_⟩
  cases outcome : CpuLines.parse (plain overlong []).text with
  | error failure =>
    refine ⟨failure, rfl, ?_⟩
    rcases (plain overlong []).parse_text_eq_error outcome with ⟨row, -, n, -, -, rfl⟩ | ⟨rfl, -⟩ <;> rfl
  | ok read =>
    have short := ((plain overlong []).parse_text_eq_ok_iff.1 outcome).1
    have first := short _ List.mem_cons_self _ List.mem_cons_self
    exact absurd first not_isWritable_pow

end CpuFile

end HostWatch
