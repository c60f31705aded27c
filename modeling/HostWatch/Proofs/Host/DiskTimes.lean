/-
**The times of disks add up.**

A line of the disk counters has the name of a device in its third column and a time in its thirteenth. It counts when
it has so many columns and its device is a whole disk; a name with a digit at the end is that of a part of one. The
times of the lines that count are read and added up. So the other lines leave the sum alone, the order of the lines
does not matter, and of two texts with a line break between them the sums are added. Only a time of too many digits
cannot be read.

* `DiskActivity.parse_eq`: **of any text, one column of each line that counts is read**, by induction on the lines.
* `DiskRow`, `DiskLine`, `DiskFile`: what stands in such a text, line by line.
* `DiskLine.timeColumn?_text`: **the column that is read is the time of the line.**
* `DiskFile.parse_text_eq_ok_iff`: what is read of the whole text.
* `DiskFile.parse_addsUp`: **what it comes to for the order of the lines, for other lines and for joined texts.**
-/

import HostWatch.Host.DiskActivity
import HostWatch.Proofs.Host.StatLine
import Mathlib.Algebra.BigOperators.Group.List.Basic
import Mathlib.Algebra.Ring.Int.Defs

namespace HostWatch

open Text

/-! ### Lines of any text -/

namespace DiskActivity

/-- The column with the time of a line, if it counts. -/
def timeColumn? (line : List Char) : Option (List Char) := do
  let name ← (words line)[nameColumn]?
  let spent ← (words line)[spentColumn]?
  if isWholeDisk name then some spent else none

def timeColumns (text : List Char) : List (List Char) := (lines text).filterMap timeColumn?

/-- A line that does not count adds nothing. -/
theorem lineSpent_eq (line : List Char) : lineSpent line = ((timeColumn? line).map readInteger).getD (.ok 0) := by
  unfold lineSpent timeColumn?
  dsimp only
  cases (words line)[nameColumn]? with
  | none => rfl
  | some name =>
    cases (words line)[spentColumn]? with
    | none => rfl
    | some spent => cases whole : isWholeDisk name <;> simp [whole]

/-- **The lines that do not count can be left out of the sum.** -/
theorem map_sum_mapM_lineSpent (all : List (List Char)) :
    (all.mapM lineSpent).map List.sum = ((all.filterMap timeColumn?).mapM readInteger).map List.sum := by
  have first (n : Int) (rest : Except Failure (List Int)) :
      (do return n :: (← rest)).map List.sum = (rest.map List.sum).map (n + ·) := by
    cases rest <;> rfl
  have nothing (outcome : Except Failure Int) : outcome.map (0 + ·) = outcome := by
    cases outcome <;> simp [Except.map]
  induction all with
  | nil => rfl
  | cons line rest ih =>
    rw [List.mapM_cons, lineSpent_eq]
    cases is : timeColumn? line with
    | none =>
      rw [List.filterMap_cons_none is, ← ih]
      exact (first 0 (rest.mapM lineSpent)).trans (nothing _)
    | some column =>
      rw [List.filterMap_cons_some is, List.mapM_cons]
      show (readInteger column >>= _).map _ = _
      cases readInteger column with
      | error failure => rfl
      | ok n =>
        calc (do return n :: (← rest.mapM lineSpent)).map List.sum
          _ = ((rest.mapM lineSpent).map List.sum).map (n + ·) := first n _
          _ = (((rest.filterMap timeColumn?).mapM readInteger).map List.sum).map (n + ·) := by rw [ih]
          _ = (do return n :: (← (rest.filterMap timeColumn?).mapM readInteger)).map List.sum := (first n _).symm

/-- **Of any text, one column of each line that counts is read.** -/
theorem parse_eq (text : List Char) (time : Int) :
    parse text time = ((timeColumns text).mapM readInteger).map fun spent => ⟨spent.sum, time⟩ := by
  have outer (outcome : Except Failure (List Int)) :
      outcome.map (fun spent => (⟨spent.sum, time⟩ : DiskActivity)) = (outcome.map List.sum).map (⟨·, time⟩) := by
    cases outcome <;> rfl
  unfold timeColumns
  rw [outer, ← map_sum_mapM_lineSpent, ← outer]
  unfold parse
  cases (lines text).mapM lineSpent <;> rfl

end DiskActivity

/-! ### Lines as they are written -/

/-- **A line with the counters of a disk.** -/
structure DiskRow where
  /-- What stands in front of the time: twelve columns, of which the third one is the name of the device. -/
  before : List Char
  columns : List (List Char)
  time : StatField
  /-- Further columns, with the blanks in front of them. -/
  after : List Char
  hasColumns : HasColumns before columns
  twelve : columns.length = DiskActivity.spentColumn
  apart : ∀ c, after.head? = some c → isBlank c = true
  isWithinLine_before : IsWithinLine before
  isWithinLine_gap : IsWithinLine time.gap
  isWithinLine_after : IsWithinLine after

namespace DiskRow

variable (row : DiskRow)

def text : List Char := row.before ++ (row.time.text ++ row.after)

/-- The name of the device. -/
def name : List Char := row.columns.get ⟨DiskActivity.nameColumn, by rw [row.twelve]; decide⟩

/-- The device is a part of a disk: its name ends in a digit. -/
def IsPart : Prop := ∃ c, row.name.getLast? = some c ∧ isDigit c = true

theorem isWholeDisk_name : DiskActivity.isWholeDisk row.name = true ↔ ¬ row.IsPart := by
  unfold DiskActivity.isWholeDisk IsPart
  rw [Bool.not_eq_true', ← Bool.not_eq_true, Option.any_eq_true]

instance : Decidable row.IsPart := decidable_of_iff _ (not_iff_comm.1 row.isWholeDisk_name.symm)

theorem words_text : words row.text = row.columns ++ row.time.word :: words row.after := by
  obtain ⟨c, gap, is⟩ := List.exists_cons_of_ne_nil row.time.gap_nonempty
  have padding := row.time.isPadding
  rw [is] at padding
  obtain ⟨blank, padding⟩ := List.forall_mem_cons.1 padding
  unfold text StatField.text
  rw [is, List.cons_append, List.cons_append, words_append_cons blank, row.hasColumns.words_eq, List.append_assoc,
    words_padding_append padding, words_append row.time.word_nonempty row.time.isSolid_word row.apart]

theorem isWithinLine_text : IsWithinLine row.text :=
  row.isWithinLine_before.append
    ((row.isWithinLine_gap.append row.time.isSolid_word.isWithinLine).append row.isWithinLine_after)

end DiskRow

/-- What may stand on a line: counters, or too few columns for them. -/
inductive DiskLine where
  | counters (row : DiskRow)
  | short (text : List Char) (columns : List (List Char)) (isWithinLine : IsWithinLine text)
      (hasColumns : HasColumns text columns) (few : columns.length ≤ DiskActivity.spentColumn)

namespace DiskLine

def text : DiskLine → List Char
  | counters row => row.text
  | short text _ _ _ _ => text

/-- The time of a line, if it counts. -/
def time? : DiskLine → Option StatField
  | counters row => if row.IsPart then none else some row.time
  | short _ _ _ _ _ => none

/-- Whether the time of a line counts: it has one, of a whole disk. -/
def counts (line : DiskLine) : Bool := line.time?.isSome

theorem isWithinLine_text (line : DiskLine) : IsWithinLine line.text := by
  cases line with
  | counters row => exact row.isWithinLine_text
  | short text _ isWithinLine _ _ => exact isWithinLine

/-- **The column that is read is the time of the line.** -/
theorem timeColumn?_text (line : DiskLine) :
    DiskActivity.timeColumn? line.text = line.time?.map StatField.word := by
  cases line with
  | counters row =>
    have twelve := row.twelve
    have within : DiskActivity.nameColumn < row.columns.length := by
      rw [twelve]
      decide
    have name : (words row.text)[DiskActivity.nameColumn]? = some row.name := by
      rw [row.words_text, List.getElem?_append_left within, List.getElem?_eq_getElem within]
      rfl
    have spent : (words row.text)[DiskActivity.spentColumn]? = some row.time.word := by
      rw [row.words_text, List.getElem?_append_right twelve.le, twelve, Nat.sub_self]
      rfl
    unfold DiskActivity.timeColumn? text time?
    dsimp only
    rw [name, spent]
    show (if DiskActivity.isWholeDisk row.name = true then some row.time.word else none) = _
    by_cases part : row.IsPart
    · rw [if_pos part, if_neg fun whole => row.isWholeDisk_name.1 whole part]
      rfl
    · rw [if_neg part, if_pos (row.isWholeDisk_name.2 part)]
      rfl
  | short text columns _ hasColumns few =>
    have spent : (words text)[DiskActivity.spentColumn]? = none := by
      rw [hasColumns.words_eq]
      exact List.getElem?_eq_none few
    unfold DiskActivity.timeColumn? DiskLine.text
    dsimp only
    rw [spent]
    cases (words text)[DiskActivity.nameColumn]? <;> rfl

end DiskLine

/-! ### Whole texts as they are written -/

/-- **A text with the counters of disks**: its lines, each but the last one with its end. -/
structure DiskFile where
  ended : List (DiskLine × Char)
  isLineEnd : ∀ line ∈ ended, Text.isLineEnd line.2 = true
  last : DiskLine

namespace DiskFile

variable (file : DiskFile)

def rows : List DiskLine := file.ended.map Prod.fst ++ [file.last]

def text : List Char := joinLines (file.ended.map fun line => (line.1.text, line.2)) file.last.text

/-- The times that count. -/
def times : List StatField := file.rows.filterMap DiskLine.time?

/-- **The columns that are read are those written.** -/
theorem timeColumns_text : DiskActivity.timeColumns file.text = file.times.map StatField.word := by
  have empty : DiskActivity.timeColumn? [] = none := by
    unfold DiskActivity.timeColumn?
    rw [words_nil]
    rfl
  unfold DiskActivity.timeColumns text times
  rw [filterMap_lines_joinLines empty DiskLine.isWithinLine_text file.isLineEnd, List.map_filterMap]
  exact List.filterMap_congr fun line _ => line.timeColumn?_text

theorem mapM_readInteger_eq_ok_iff {fields : List StatField} {values : List Int} :
    (fields.map StatField.word).mapM readInteger = .ok values ↔
      (∀ field ∈ fields, field.IsShort) ∧ values = fields.map StatField.value := by
  rw [mapM_eq_ok_iff, List.forall₂_map_left_iff]
  simp only [StatLine.readInteger_eq_ok_iff]
  exact forall₂_and_eq_iff

/-- **The sum of the times is read**, unless one of them has too many digits. -/
theorem parse_text_eq_ok_iff {time : Int} {activity : DiskActivity} :
    DiskActivity.parse file.text time = .ok activity ↔
      (∀ spent ∈ file.times, spent.IsShort) ∧ activity = ⟨(file.times.map StatField.value).sum, time⟩ := by
  rw [DiskActivity.parse_eq, timeColumns_text]
  constructor
  · intro parsed
    obtain ⟨values, read, rfl⟩ := exists_of_map_eq_ok parsed
    obtain ⟨short, rfl⟩ := mapM_readInteger_eq_ok_iff.1 read
    exact ⟨short, rfl⟩
  · rintro ⟨short, rfl⟩
    rw [mapM_readInteger_eq_ok_iff.2 ⟨short, rfl⟩]
    rfl

theorem parse_text_eq_error {time : Int} {failure : Failure}
    (fails : DiskActivity.parse file.text time = .error failure) :
    ∃ spent ∈ file.times, mostDigits < spent.digits.length ∧
      failure = .numeral (.tooManyDigits spent.digits.length) := by
  rw [DiskActivity.parse_eq, timeColumns_text] at fails
  obtain ⟨before, column, after, split, -, fails⟩ := mapM_eq_error_iff.1 (eq_error_of_map fails)
  have written : column ∈ file.times.map StatField.word := split ▸ List.mem_append_right before List.mem_cons_self
  obtain ⟨spent, member, rfl⟩ := List.mem_map.1 written
  exact ⟨spent, member, StatLine.tooManyDigits_of_readInteger fails⟩

/-! ### Other orders and other lines -/

theorem filterMap_filter_counts (lines : List DiskLine) :
    (lines.filter DiskLine.counts).filterMap DiskLine.time? = lines.filterMap DiskLine.time? := by
  rw [List.filterMap_filter]
  refine List.filterMap_congr fun line _ => ?_
  unfold DiskLine.counts
  cases line.time? <;> rfl

/-- **Neither other lines nor another order of those that count change what is read.** -/
theorem parse_text_eq_ok_iff_of_perm {other : DiskFile}
    (same : (other.rows.filter DiskLine.counts).Perm (file.rows.filter DiskLine.counts)) {time : Int}
    {activity : DiskActivity} :
    DiskActivity.parse other.text time = .ok activity ↔ DiskActivity.parse file.text time = .ok activity := by
  have times : other.times.Perm file.times := by
    unfold DiskFile.times
    rw [← filterMap_filter_counts other.rows, ← filterMap_filter_counts file.rows]
    exact same.filterMap _
  have sum : (other.times.map StatField.value).sum = (file.times.map StatField.value).sum :=
    (times.map _).sum_eq
  rw [parse_text_eq_ok_iff, parse_text_eq_ok_iff, sum]
  exact and_congr_left fun _ => forall_congr' fun _ => imp_congr_left times.mem_iff

/-! ### Joined texts -/

/-- What ends a line: one character, or a carriage return and a line feed. -/
def IsLineBreak (between : List Char) : Prop :=
  between = ['\r', '\n'] ∨ ∃ c, Text.isLineEnd c = true ∧ between = [c]

/-- A text with the lines of another one behind its own. -/
def append (c : Char) (ends : Text.isLineEnd c = true) (other : DiskFile) : DiskFile where
  ended := file.ended ++ (file.last, c) :: other.ended
  isLineEnd := List.forall_mem_append.2 ⟨file.isLineEnd, List.forall_mem_cons.2 ⟨ends, other.isLineEnd⟩⟩
  last := other.last

variable {c : Char} (ends : Text.isLineEnd c = true) (other : DiskFile)

theorem text_append : (file.append c ends other).text = file.text ++ c :: other.text := by
  unfold append text joinLines
  rw [List.map_append, List.flatMap_append, List.map_cons, List.flatMap_cons]
  simp only [List.append_assoc]
  rfl

theorem times_append : (file.append c ends other).times = file.times ++ other.times := by
  have rows : (file.append c ends other).rows = file.rows ++ other.rows := by
    unfold append DiskFile.rows
    rw [List.map_append, List.map_cons, List.append_assoc, List.append_assoc]
    rfl
  unfold times
  rw [rows, List.filterMap_append]

/-- A text without anything in it. -/
def empty : DiskFile := ⟨[], nofun, .short [] [] nofun .nil (Nat.zero_le _)⟩

theorem exists_joined {between : List Char} (isBreak : IsLineBreak between) : ∃ joined : DiskFile,
    joined.text = file.text ++ between ++ other.text ∧ joined.times = file.times ++ other.times := by
  rcases isBreak with rfl | ⟨c, ends, rfl⟩
  -- Between the carriage return and the line feed there is an empty line.
  · have return_ : Text.isLineEnd '\r' = true := by decide
    have feed : Text.isLineEnd '\n' = true := by decide
    refine ⟨file.append '\r' return_ (empty.append '\n' feed other), ?_, ?_⟩
    · rw [text_append, text_append, List.append_assoc]
      rfl
    · rw [times_append, times_append]
      rfl
  · refine ⟨file.append c ends other, ?_, file.times_append ends other⟩
    rw [text_append, List.append_assoc]
    rfl

/-- **Of joined texts the sums are added.** -/
theorem parse_append_eq_ok_iff {between : List Char} (isBreak : IsLineBreak between) {time : Int}
    {activity : DiskActivity} :
    DiskActivity.parse (file.text ++ between ++ other.text) time = .ok activity ↔
      ∃ first second, DiskActivity.parse file.text time = .ok ⟨first, time⟩ ∧
        DiskActivity.parse other.text time = .ok ⟨second, time⟩ ∧ activity = ⟨first + second, time⟩ := by
  obtain ⟨joined, text, times⟩ := file.exists_joined other isBreak
  rw [← text, parse_text_eq_ok_iff, times, List.forall_mem_append, List.map_append, List.sum_append]
  simp only [parse_text_eq_ok_iff]
  constructor
  · rintro ⟨⟨short, short'⟩, rfl⟩
    exact ⟨_, _, ⟨short, rfl⟩, ⟨short', rfl⟩, rfl⟩
  · rintro ⟨first, second, ⟨short, is⟩, ⟨short', is'⟩, rfl⟩
    cases is
    cases is'
    exact ⟨⟨short, short'⟩, rfl⟩

/-! ### What it comes to -/

/-- **The times of a text add up.** -/
structure AddsUp (time : Int) : Prop where
  /-- The sum of the times of whole disks is read, unless one of them has too many digits. -/
  parse_iff : ∀ activity, DiskActivity.parse file.text time = .ok activity ↔
    (∀ spent ∈ file.times, spent.IsShort) ∧ activity = ⟨(file.times.map StatField.value).sum, time⟩
  /-- Nothing but such a time makes the reading fail. -/
  refused : ∀ failure, DiskActivity.parse file.text time = .error failure →
    ∃ spent ∈ file.times, mostDigits < spent.digits.length ∧
      failure = .numeral (.tooManyDigits spent.digits.length)
  /-- Any other text that has the same lines of whole disks, in whatever order and with whatever lines of parts of
  disks and shorter ones among them, is read as this one. -/
  regrouped : ∀ other : DiskFile, (other.rows.filter DiskLine.counts).Perm (file.rows.filter DiskLine.counts) →
    ∀ activity,
      DiskActivity.parse other.text time = .ok activity ↔ DiskActivity.parse file.text time = .ok activity
  /-- With another text behind it, the sums are added. -/
  joined : ∀ (other : DiskFile) (between : List Char), IsLineBreak between → ∀ activity,
    DiskActivity.parse (file.text ++ between ++ other.text) time = .ok activity ↔
      ∃ first second, DiskActivity.parse file.text time = .ok ⟨first, time⟩ ∧
        DiskActivity.parse other.text time = .ok ⟨second, time⟩ ∧ activity = ⟨first + second, time⟩

/-- **The times of every text add up.** -/
theorem parse_addsUp (time : Int) : file.AddsUp time where
  parse_iff _ := file.parse_text_eq_ok_iff
  refused _ := file.parse_text_eq_error
  regrouped _ same _ := file.parse_text_eq_ok_iff_of_perm same
  joined other _ isBreak _ := file.parse_append_eq_ok_iff other isBreak

/-! ### Too many digits -/

/-- A line of a whole disk whose time has one digit too many. -/
def overlongRow : DiskRow where
  before := "8 0 sda 1 2 3 4 5 6 7 8 9".toList
  columns := ["8", "0", "sda", "1", "2", "3", "4", "5", "6", "7", "8", "9"].map String.toList
  time := StatLine.fieldOf mostDigits
  after := " 11".toList
  hasColumns := hasColumns_iff.2 (by decide)
  twelve := rfl
  apart := by
    rintro _ ⟨⟩
    rfl
  isWithinLine_before := by decide
  isWithinLine_gap := isWithinLine_space
  isWithinLine_after := by decide

def overlong : DiskFile := ⟨[], nofun, .counters overlongRow⟩

/-- **A time of too many digits is not read.** -/
theorem parse_of_overlongTime : overlong.times = [overlongRow.time] ∧
    DiskActivity.parse overlong.text 0 = .error (.numeral (.tooManyDigits 4301)) ∧
    DiskActivity.parse overlong.text 0 ≠ .ok ⟨(overlong.times.map StatField.value).sum, 0⟩ := by
  have whole : ¬ overlongRow.IsPart := overlongRow.isWholeDisk_name.1 (by decide)
  have counted : DiskLine.time? (.counters overlongRow) = some overlongRow.time := by
    show (if overlongRow.IsPart then none else some overlongRow.time) = _
    exact if_neg whole
  have times : overlong.times = [overlongRow.time] := List.filterMap_cons_some counted
  have length : overlongRow.time.digits.length = 4301 := length_powerDigits mostDigits
  have many : mostDigits < overlongRow.time.digits.length := by
    rw [length]
    decide
  have read := overlongRow.time.readInteger_word
  rw [if_pos many, length] at read
  have fails : DiskActivity.parse overlong.text 0 = .error (.numeral (.tooManyDigits 4301)) := by
    rw [DiskActivity.parse_eq, timeColumns_text, times, List.map_singleton, List.mapM_cons, read]
    rfl
  refine ⟨times, fails, ?_⟩
  rw [fails]
  nofun

end DiskFile

end HostWatch
