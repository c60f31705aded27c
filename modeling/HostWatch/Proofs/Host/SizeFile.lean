/-
**A file of named sizes is read as it is written.**

A line of the file gives a name with a colon and, behind blanks, a number and perhaps a unit; around all of them
there may be blanks, and between such lines there may be blank ones. Read back, each name has the size on the last
line that has this name. Only a number of too many digits cannot be read.

* `SizeLine`, `SizeFile`: what stands in such a file, and its text.
* `SizeLine.readLine?_text`, `SizeLine.readBytes_value`: **a line is read as it is written.**
* `SizeFile.lookup_parse`: **the last line with a name counts.**
* `SizeFile.Tells`, `SizeFile.parse_tells`: **what is read from the file**, and the usages of the memory by it.
-/

import HostWatch.Proofs.Host.MemoryFigures
import HostWatch.Proofs.Text.LowerCase
import HostWatch.Proofs.Text.Words

namespace HostWatch

open Text

/-! ### Lines -/

/-- Blanks within a line. -/
def IsGap (s : List Char) : Prop := IsPadding s ∧ IsWithinLine s

/-- The ways to write the unit. -/
def unitWords : List (List Char) := [['k', 'B'], ['K', 'B'], ['k', 'b'], ['K', 'b']]

/-- **A line that names a size.** -/
structure SizeLine where
  /-- The blanks in front of the name. -/
  before : List Char
  name : String
  /-- The blanks behind the name and its colon. -/
  gap : List Char
  digits : List Char
  /-- The unit, with the blanks in front of it, if there is one. -/
  unit? : Option (List Char × List Char)
  /-- The blanks at the end of the line. -/
  after : List Char
  isGap_before : IsGap before
  name_nonempty : name.toList ≠ []
  name_solid : IsSolid name.toList
  name_uncolored : name.toList.getLast? ≠ some ':'
  gap_nonempty : gap ≠ []
  isGap_gap : IsGap gap
  digits_nonempty : digits ≠ []
  isDigit : ∀ c ∈ digits, c.isDigit
  isGap_unit : ∀ blanks word, unit? = some (blanks, word) → IsGap blanks ∧ word ∈ unitWords
  isGap_after : IsGap after

namespace SizeLine

variable (line : SizeLine)

/-- The unit as it stands behind the number. -/
def unitText : List Char :=
  match line.unit? with
  | none => []
  | some (blanks, word) => blanks ++ word

def value : List Char := line.digits ++ line.unitText

def label : List Char := line.name.toList ++ [':']

def text : List Char := line.before ++ (line.label ++ (line.gap ++ line.value)) ++ line.after

/-- The size in bytes. -/
def size : Int := (if line.unit?.isSome then 1024 else 1) * (Nat.ofDigitChars 10 line.digits 0 : Nat)

/-- The size as it is read. -/
def read : Except Failure Int :=
  if mostDigits < line.digits.length then .error (.numeral (.tooManyDigits line.digits.length)) else .ok line.size

theorem isSolid_digits : IsSolid line.digits := isSolid_of_isDigit line.isDigit

theorem isSolid_of_unitWords {word : List Char} (unit : word ∈ unitWords) : IsSolid word ∧ word ≠ [] := by
  have all : ∀ word ∈ unitWords, IsSolid word ∧ word ≠ [] := by decide
  exact all word unit

theorem label_nonempty : line.label ≠ [] := List.append_ne_nil_of_right_ne_nil _ (by decide)

theorem isSolid_label : IsSolid line.label := List.forall_mem_append.2 ⟨line.name_solid, (by decide : IsSolid [':'])⟩

/-- The value ends with a word. -/
theorem exists_value_eq : ∃ front last, line.value = front ++ last ∧ last ≠ [] ∧ IsSolid last := by
  unfold value unitText
  cases unit : line.unit? with
  | none => exact ⟨[], line.digits, List.append_nil _, line.digits_nonempty, line.isSolid_digits⟩
  | some pair =>
    obtain ⟨blanks, word⟩ := pair
    obtain ⟨solid, nonempty⟩ := isSolid_of_unitWords (line.isGap_unit blanks word unit).2
    exact ⟨line.digits ++ blanks, word, (List.append_assoc ..).symm, nonempty, solid⟩

theorem trimmed_text : trimmed line.text = line.label ++ (line.gap ++ line.value) := by
  obtain ⟨front, last, value_eq, nonempty, solid⟩ := line.exists_value_eq
  have ends : line.label ++ (line.gap ++ line.value) = (line.label ++ (line.gap ++ front)) ++ last := by
    rw [value_eq, List.append_assoc, List.append_assoc]
  exact trimmed_of_parts line.isGap_before.1 line.isGap_after.1 rfl line.label_nonempty line.isSolid_label ends
    nonempty solid

theorem trimmed_gap_value : trimmed (line.gap ++ line.value) = line.value := by
  obtain ⟨front, last, value_eq, nonempty, solid⟩ := line.exists_value_eq
  have starts : line.value = line.digits ++ line.unitText := rfl
  have none : IsPadding [] := nofun
  have trims := trimmed_of_parts line.isGap_gap.1 none starts line.digits_nonempty line.isSolid_digits value_eq
    nonempty solid
  rwa [List.append_nil] at trims

/-- **The name and the value of a line are read as they are written.** -/
theorem readLine?_text : Properties.readLine? line.text = some (line.name, line.value) := by
  have bare : (line.label.reverse.dropWhile (· == ':')).reverse = line.name.toList := by
    have last : line.name.toList.reverse.dropWhile (· == ':') = line.name.toList.reverse := by
      cases letters : line.name.toList.reverse with
      | nil => rfl
      | cons c rest =>
        refine List.dropWhile_cons_of_neg fun colon => line.name_uncolored ?_
        rw [← List.head?_reverse, letters]
        exact congrArg some (by simpa using colon)
    unfold label
    rw [List.reverse_append, List.reverse_singleton, List.singleton_append, List.dropWhile_cons_of_pos (by decide),
      last, List.reverse_reverse]
  unfold Properties.readLine?
  rw [trimmed_text]
  dsimp only
  rw [words_append line.label_nonempty line.isSolid_label (line.isGap_gap.1.isBlank_head? line.gap_nonempty _)]
  show some (String.ofList _, trimmed _) = _
  rw [bare, List.drop_left, trimmed_gap_value, String.ofList_toList]

theorem not_endsIgnoringCase_digits : endsIgnoringCase line.digits Properties.unit = false := by
  have same : line.digits.map lowerForComparison = line.digits := by
    rw [List.map_congr_left fun c member => lowerForComparison_of_isDigit (line.isDigit c member), List.map_id']
  unfold endsIgnoringCase
  rw [same]
  by_contra ends
  have last : Properties.unit.toList.isSuffixOf line.digits = true := by simpa using ends
  have suffix := List.isSuffixOf_iff_suffix.1 last
  exact absurd (line.isDigit 'b' (suffix.subset (by decide))) (by decide)

/-- **A value is read as the size that it tells**, unless its number has too many digits. -/
theorem readBytes_value : Properties.readBytes line.value = line.read := by
  have digits := readInteger_digits line.isDigit line.digits_nonempty
  unfold Properties.readBytes read size value unitText
  cases unit : line.unit? with
  | none =>
    rw [List.append_nil, not_endsIgnoringCase_digits]
    unfold readInteger
    rw [digits]
    by_cases many : mostDigits < line.digits.length
    · rw [if_pos many, if_pos many]
      rfl
    · rw [if_neg many, if_neg many]
      simp [Except.mapError]
  | some pair =>
    obtain ⟨blanks, word⟩ := pair
    obtain ⟨gap, unit⟩ := line.isGap_unit blanks word unit
    have words : ∀ word ∈ unitWords, word.map lowerForComparison = Properties.unit.toList ∧ word.length = 2 := by decide
    obtain ⟨lower, length⟩ := words word unit
    have ends : endsIgnoringCase (line.digits ++ (blanks ++ word)) Properties.unit = true := by
      unfold endsIgnoringCase
      rw [← List.append_assoc, List.map_append, lower]
      exact List.isSuffixOf_iff_suffix.2 (List.suffix_append _ _)
    have front : (line.digits ++ (blanks ++ word)).take ((line.digits ++ (blanks ++ word)).length - 2) =
        line.digits ++ blanks := by
      rw [← List.append_assoc, List.length_append, length, Nat.add_sub_cancel, List.take_left]
    have none : IsPadding [] := nofun
    have trims := trimmed_of_parts none gap.1 (List.append_nil line.digits).symm line.digits_nonempty
      line.isSolid_digits (List.nil_append line.digits).symm line.digits_nonempty line.isSolid_digits
    show (if endsIgnoringCase (line.digits ++ (blanks ++ word)) Properties.unit then _ else _) = _
    rw [if_pos ends, front, show line.digits ++ blanks = [] ++ line.digits ++ blanks from rfl, trims]
    unfold readInteger
    rw [digits]
    by_cases many : mostDigits < line.digits.length
    · rw [if_pos many, if_pos many]
      rfl
    · rw [if_neg many, if_neg many]
      rfl

theorem isWithinLine_text : IsWithinLine line.text := by
  have unit : IsWithinLine line.unitText := by
    unfold unitText
    cases unit : line.unit? with
    | none => exact nofun
    | some pair =>
      obtain ⟨blanks, word⟩ := pair
      obtain ⟨gap, unit⟩ := line.isGap_unit blanks word unit
      exact gap.2.append (isSolid_of_unitWords unit).1.isWithinLine
  have value : IsWithinLine line.value := line.isSolid_digits.isWithinLine.append unit
  exact (line.isGap_before.2.append (line.isSolid_label.isWithinLine.append (line.isGap_gap.2.append value))).append
    line.isGap_after.2

end SizeLine

/-! ### Files -/

/-- Nothing is read of a blank line. -/
theorem readLine?_padding {padding : List Char} (blanks : IsPadding padding) : Properties.readLine? padding = none := by
  unfold Properties.readLine?
  rw [trimmed_padding blanks]
  dsimp only
  rw [words_nil]
  rfl

/-- What may stand on a line. -/
inductive FileLine where
  | blank (padding : List Char) (isGap : IsGap padding)
  | size (line : SizeLine)

namespace FileLine

def text : FileLine → List Char
  | blank padding _ => padding
  | size line => line.text

def size? : FileLine → Option SizeLine
  | blank _ _ => none
  | size line => some line

theorem isWithinLine_text (line : FileLine) : IsWithinLine line.text := by
  cases line with
  | blank padding isGap => exact isGap.2
  | size line => exact line.isWithinLine_text

theorem readLine?_text (line : FileLine) :
    Properties.readLine? line.text = line.size?.map fun line => (line.name, line.value) := by
  cases line with
  | blank padding isGap => exact readLine?_padding isGap.1
  | size line => exact line.readLine?_text

end FileLine

/-- **A file of named sizes**: its lines, each but the last one with its end. -/
structure SizeFile where
  ended : List (FileLine × Char)
  isLineEnd : ∀ line ∈ ended, Text.isLineEnd line.2 = true
  last : FileLine

/-- The text of some lines with their ends, and of the last line. -/
def linesText (ended : List (FileLine × Char)) (last : FileLine) : List Char :=
  ended.flatMap (fun line => line.1.text ++ [line.2]) ++ last.text

/-- **The lines of a text are read one by one**, whatever ends them. -/
theorem filterMap_linesText {ended : List (FileLine × Char)} (ends : ∀ line ∈ ended, isLineEnd line.2 = true)
    (last : FileLine) :
    (lines (linesText ended last)).filterMap Properties.readLine? =
      ((ended.map Prod.fst ++ [last]).filterMap FileLine.size?).map fun line => (line.name, line.value) := by
  have empty : Properties.readLine? [] = none := readLine?_padding nofun
  have joined : linesText ended last = joinLines (ended.map fun line => (line.1.text, line.2)) last.text := by
    unfold linesText joinLines
    rw [List.flatMap_map]
  rw [joined, filterMap_lines_joinLines empty FileLine.isWithinLine_text ends, List.map_filterMap]
  exact List.filterMap_congr fun line _ => line.readLine?_text

/-- Of the values that are set for a key the last one counts. -/
theorem KeyedList.lookup_foldl_set {α β : Type} [DecidableEq α] (key : α) (values entries : List (α × β)) :
    (values.foldl (fun all (k, v) => KeyedList.set k v all) entries).lookup key =
      (values.reverse.lookup key).or (entries.lookup key) := by
  induction values generalizing entries with
  | nil => rfl
  | cons value values ih =>
    obtain ⟨k, v⟩ := value
    rw [List.foldl_cons, ih, KeyedList.lookup_set, List.reverse_cons, List.lookup_append]
    cases values.reverse.lookup key with
    | some other => rfl
    | none =>
      by_cases same : key = k
      · simp [same]
      · simp [same, List.lookup_cons, beq_false_of_ne same]

namespace SizeFile

variable (file : SizeFile)

def text : List Char := linesText file.ended file.last

/-- The lines that name sizes, in order. -/
def sizeLines : List SizeLine := (file.ended.map Prod.fst ++ [file.last]).filterMap FileLine.size?

/-- The last line with a name. -/
def lastLine? (name : String) : Option SizeLine := file.sizeLines.reverse.find? fun line => name == line.name

def size? (name : String) : Option Int := (file.lastLine? name).map SizeLine.size

theorem parse_text : Properties.parse file.text =
    (file.sizeLines.map fun line => (line.name, line.value)).foldl
      (fun all (name, value) => KeyedList.set name value all) [] := by
  unfold Properties.parse text
  rw [filterMap_linesText file.isLineEnd]
  rfl

/-- **The last line with a name counts.** -/
theorem lookup_parse (name : String) :
    (Properties.parse file.text).lookup name = (file.lastLine? name).map SizeLine.value := by
  rw [parse_text, KeyedList.lookup_foldl_set, ← List.map_reverse, List.lookup_nil, Option.or_none]
  unfold lastLine?
  induction file.sizeLines.reverse with
  | nil => rfl
  | cons line lines ih =>
    rw [List.map_cons, List.lookup_cons, List.find?_cons, ih]
    cases name == line.name <;> rfl

theorem bytes?_parse (name : String) : (Properties.parse file.text).bytes? name =
    match file.lastLine? name with
    | none => .ok none
    | some line => line.read.map some := by
  unfold Properties.bytes?
  rw [lookup_parse]
  cases file.lastLine? name with
  | none => rfl
  | some line => exact congrArg (Except.map some) line.readBytes_value

/-- A name has no size of too many digits. -/
def IsShort (name : String) : Prop :=
  ∀ line, file.lastLine? name = some line → line.digits.length ≤ mostDigits

theorem bytes?_of_isShort {name : String} (short : file.IsShort name) :
    (Properties.parse file.text).bytes? name = .ok (file.size? name) := by
  rw [bytes?_parse]
  unfold size?
  cases last : file.lastLine? name with
  | none => rfl
  | some line =>
    dsimp only
    unfold SizeLine.read
    rw [if_neg (Nat.not_lt.2 (short line last))]
    rfl

theorem bytes?_of_long {name : String} {line : SizeLine} (last : file.lastLine? name = some line)
    (many : mostDigits < line.digits.length) :
    (Properties.parse file.text).bytes? name = .error (.numeral (.tooManyDigits line.digits.length)) := by
  rw [bytes?_parse, last]
  dsimp only
  unfold SizeLine.read
  rw [if_pos many]
  rfl

theorem size?_nonneg {name : String} {size : Int} (is : file.size? name = some size) : 0 ≤ size := by
  obtain ⟨line, -, rfl⟩ := Option.map_eq_some_iff.1 is
  unfold SizeLine.size
  split <;> omega

/-! ### The memory by the file -/

theorem sizes?_of_isShort {names : List String} (short : ∀ name ∈ names, file.IsShort name) :
    (Properties.parse file.text).sizes? names = some (names.map file.size?) := by
  rw [Properties.sizes?_eq_some_iff]
  induction names with
  | nil => exact .nil
  | cons name names ih =>
    obtain ⟨first, rest⟩ := List.forall_mem_cons.1 short
    exact .cons (file.bytes?_of_isShort first) (ih rest)

/-- One size of too many digits leaves all of them untold. -/
theorem sizes?_of_not_isShort {names : List String} {name : String} (member : name ∈ names)
    (long : ¬ file.IsShort name) : (Properties.parse file.text).sizes? names = none := by
  unfold IsShort at long
  push Not at long
  obtain ⟨line, last, many⟩ := long
  induction names with
  | nil => cases member
  | cons first names ih =>
    rw [Properties.sizes?_cons]
    rcases List.mem_cons.1 member with rfl | member
    · rw [file.bytes?_of_long last many]
    · rw [ih member]
      cases (Properties.parse file.text).bytes? first <;> rfl

/-- The file of a host that shows this text. -/
theorem memoryProperties?_eq {host : Host} (shows : host.memoryFile = .text (String.ofList file.text)) :
    host.memoryProperties? =
      if (Properties.parse file.text).isEmpty then none else some (Properties.parse file.text) := by
  have read : host.memoryFile.read? = some (unifyLineEnds file.text) := by
    rw [shows]
    show some (unifyLineEnds (String.ofList file.text).toList) = _
    rw [String.toList_ofList]
  have parse : Properties.parse (unifyLineEnds file.text) = Properties.parse file.text := by
    unfold Properties.parse
    rw [lines_unifyLineEnds]
  unfold Host.memoryProperties?
  rw [read, Option.map_some, parse, Option.filter_some]
  cases (Properties.parse file.text).isEmpty <;> rfl

/-- A file without any size tells as little as one without the sizes that are asked for. -/
theorem usage_of_memoryProperties? {host : Host} (shows : host.memoryFile = .text (String.ofList file.text))
    {usage : Properties → Except Failure (Option MemoryUsage)} (empty : usage [] = .ok none) :
    (match host.memoryProperties? with
      | some properties => usage properties
      | none => .ok none) = usage (Properties.parse file.text) := by
  rw [file.memoryProperties?_eq shows]
  cases nothing : (Properties.parse file.text).isEmpty with
  | true => rw [List.isEmpty_iff.1 nothing, empty]; rfl
  | false => rfl

section Memory

variable {machine : Machine} (shows : machine.host.memoryFile = .text (String.ofList file.text))
include shows

theorem run_physical : (MemorySource.file.physical.run.run machine).1 =
    (Properties.parse file.text).physicalMemory := by
  rw [MemorySource.run_physical]
  exact file.usage_of_memoryProperties? shows rfl

theorem run_swap : (MemorySource.file.swap.run.run machine).1 = (Properties.parse file.text).swap := by
  rw [MemorySource.run_swap]
  exact file.usage_of_memoryProperties? shows rfl

end Memory

end SizeFile

theorem exists_usageOf {used committed max : Int} (nonneg : 0 ≤ used) (le : used ≤ committed) (le' : committed ≤ max) :
    ∃ usage, usageOf used committed max = .ok usage ∧
      usage.init = -1 ∧ usage.used = used ∧ usage.committed = committed ∧ usage.max = max := by
  obtain ⟨usage?, made, -⟩ := (answered_usageOf_iff used committed max).2 ⟨nonneg, le, le'⟩
  obtain ⟨usage, accepted, rfl⟩ := exists_of_map_eq_ok made
  exact ⟨usage, accepted, usageOf_eq_ok_iff.1 accepted⟩

namespace SizeFile

variable (file : SizeFile)

/-- What is used of the physical memory: buffers and caches are left out, when both are told. -/
def usedOf (committed : Int) : Int :=
  match file.size? "Buffers", file.size? "Cached" with
  | some buffers, some cached => max 0 (committed - buffers - cached)
  | _, _ => committed

theorem usedOf_bounds {committed : Int} (nonneg : 0 ≤ committed) :
    0 ≤ file.usedOf committed ∧ file.usedOf committed ≤ committed := by
  unfold usedOf
  cases buffers : file.size? "Buffers" with
  | none => exact ⟨nonneg, Int.le_refl _⟩
  | some b =>
    cases cached : file.size? "Cached" with
    | none => exact ⟨nonneg, Int.le_refl _⟩
    | some c =>
      have := file.size?_nonneg buffers
      have := file.size?_nonneg cached
      dsimp only
      omega

def physicalNames : List String := ["MemTotal", "MemFree", "Buffers", "Cached"]

def swapNames : List String := ["SwapTotal", "SwapFree"]

theorem physicalMemory_of_isShort (short : ∀ name ∈ physicalNames, file.IsShort name) :
    (Properties.parse file.text).physicalMemory =
      match file.size? "MemTotal", file.size? "MemFree" with
      | some total, some free => (usageOf (file.usedOf (total - free)) (total - free) total).map some
      | _, _ => .ok none := by
  have told : _ = some [_, _, _, _] := file.sizes?_of_isShort short
  unfold physicalNames at told
  unfold Properties.physicalMemory usedOf
  rw [told]
  cases file.size? "MemTotal" <;> cases file.size? "MemFree" <;> rfl

theorem swap_of_isShort (short : ∀ name ∈ swapNames, file.IsShort name) :
    (Properties.parse file.text).swap =
      match file.size? "SwapTotal", file.size? "SwapFree" with
      | some total, some free => (usageOf (total - free) (total - free) total).map some
      | _, _ => .ok none := by
  have told : _ = some [_, _] := file.sizes?_of_isShort short
  unfold swapNames at told
  unfold Properties.swap
  rw [told]
  cases file.size? "SwapTotal" <;> cases file.size? "SwapFree" <;> rfl

theorem exists_physicalMemory (short : ∀ name ∈ physicalNames, file.IsShort name) {total free : Int}
    (totalIs : file.size? "MemTotal" = some total) (freeIs : file.size? "MemFree" = some free) (le : free ≤ total) :
    ∃ usage, (Properties.parse file.text).physicalMemory = .ok (some usage) ∧ usage.init = -1 ∧
      usage.used = file.usedOf (total - free) ∧ usage.committed = total - free ∧ usage.max = total := by
  have nonneg := file.size?_nonneg freeIs
  obtain ⟨least, most⟩ := file.usedOf_bounds (by omega : 0 ≤ total - free)
  obtain ⟨usage, made, fields⟩ := exists_usageOf least most (by omega : total - free ≤ total)
  refine ⟨usage, ?_, fields⟩
  rw [file.physicalMemory_of_isShort short, totalIs, freeIs]
  exact congrArg (Except.map some) made

theorem exists_swap (short : ∀ name ∈ swapNames, file.IsShort name) {total free : Int}
    (totalIs : file.size? "SwapTotal" = some total) (freeIs : file.size? "SwapFree" = some free) (le : free ≤ total) :
    ∃ usage, (Properties.parse file.text).swap = .ok (some usage) ∧ usage.init = -1 ∧
      usage.used = total - free ∧ usage.committed = total - free ∧ usage.max = total := by
  have nonneg := file.size?_nonneg freeIs
  obtain ⟨usage, made, fields⟩ :=
    exists_usageOf (by omega : 0 ≤ total - free) (Int.le_refl _) (by omega : total - free ≤ total)
  refine ⟨usage, ?_, fields⟩
  rw [file.swap_of_isShort short, totalIs, freeIs]
  exact congrArg (Except.map some) made

/-- There is no usage where a size is not read, nor where one is missing. -/
theorem eq_none_of_names (names : List String) {missing : Prop} {usage : Except Failure (Option MemoryUsage)}
    (untold : (Properties.parse file.text).sizes? names = none → usage = .ok none)
    (told : (∀ name ∈ names, file.IsShort name) → missing → usage = .ok none)
    (nothing : missing ∨ ∃ name ∈ names, ¬ file.IsShort name) : usage = .ok none := by
  by_cases long : ∃ name ∈ names, ¬ file.IsShort name
  · obtain ⟨name, member, long⟩ := long
    exact untold (file.sizes?_of_not_isShort member long)
  · have short : ∀ name ∈ names, file.IsShort name := fun name member =>
      not_not.1 fun isLong => long ⟨name, member, isLong⟩
    exact told short (nothing.resolve_right long)

theorem physicalMemory_eq_none (nothing : (file.size? "MemTotal" = none ∨ file.size? "MemFree" = none) ∨
    ∃ name ∈ physicalNames, ¬ file.IsShort name) : (Properties.parse file.text).physicalMemory = .ok none := by
  refine file.eq_none_of_names physicalNames (fun untold => ?_) (fun short missing => ?_) nothing
  · unfold physicalNames at untold
    unfold Properties.physicalMemory
    rw [untold]
  · rw [file.physicalMemory_of_isShort short]
    rcases missing with total | free
    · rw [total]
    · rw [free]
      cases file.size? "MemTotal" <;> rfl

theorem swap_eq_none (nothing : (file.size? "SwapTotal" = none ∨ file.size? "SwapFree" = none) ∨
    ∃ name ∈ swapNames, ¬ file.IsShort name) : (Properties.parse file.text).swap = .ok none := by
  refine file.eq_none_of_names swapNames (fun untold => ?_) (fun short missing => ?_) nothing
  · unfold swapNames at untold
    unfold Properties.swap
    rw [untold]
  · rw [file.swap_of_isShort short]
    rcases missing with total | free
    · rw [total]
    · rw [free]
      cases file.size? "SwapTotal" <;> rfl

/-! ### What is read from the file -/

/-- A machine whose host has the file for its memory. -/
def IsShownBy (machine : Machine) : Prop := machine.host.memoryFile = .text (String.ofList file.text)

/-- **What is read from a file of named sizes**, and the usages of the memory by it. -/
structure Tells : Prop where
  /-- A name has the size on its last line. -/
  present : ∀ name line, file.lastLine? name = some line → line.digits.length ≤ mostDigits →
    (Properties.parse file.text).bytes name = .ok line.size ∧
      (Properties.parse file.text).bytesOrZero name = .ok line.size ∧
      (Properties.parse file.text).bytes? name = .ok (some line.size)
  /-- A number of too many digits is not read. -/
  overlong : ∀ name line, file.lastLine? name = some line → mostDigits < line.digits.length →
    (Properties.parse file.text).bytes name = .error (.numeral (.tooManyDigits line.digits.length)) ∧
      (Properties.parse file.text).bytesOrZero name = .error (.numeral (.tooManyDigits line.digits.length)) ∧
      (Properties.parse file.text).bytes? name = .error (.numeral (.tooManyDigits line.digits.length))
  /-- The three ways to ask differ for a name that is not there. -/
  absent : ∀ name, file.lastLine? name = none →
    (Properties.parse file.text).bytes name =
        .error (.missingProperty name (Properties.parse file.text).sortedNames) ∧
      (Properties.parse file.text).bytesOrZero name = .ok 0 ∧
      (Properties.parse file.text).bytes? name = .ok none
  physical : ∀ machine total free, file.IsShownBy machine → (∀ name ∈ physicalNames, file.IsShort name) →
    file.size? "MemTotal" = some total → file.size? "MemFree" = some free → free ≤ total →
    ∃ usage, (MemorySource.file.physical.run.run machine).1 = .ok (some usage) ∧ usage.init = -1 ∧
      usage.used = file.usedOf (total - free) ∧ usage.committed = total - free ∧ usage.max = total
  /-- Without the total or the free memory there is no usage, and neither where a size is not read. -/
  physical_none : ∀ machine, file.IsShownBy machine →
    (file.size? "MemTotal" = none ∨ file.size? "MemFree" = none) ∨ (∃ name ∈ physicalNames, ¬ file.IsShort name) →
    (MemorySource.file.physical.run.run machine).1 = .ok none
  swap : ∀ machine total free, file.IsShownBy machine → (∀ name ∈ swapNames, file.IsShort name) →
    file.size? "SwapTotal" = some total → file.size? "SwapFree" = some free → free ≤ total →
    ∃ usage, (MemorySource.file.swap.run.run machine).1 = .ok (some usage) ∧ usage.init = -1 ∧
      usage.used = total - free ∧ usage.committed = total - free ∧ usage.max = total
  swap_none : ∀ machine, file.IsShownBy machine →
    (file.size? "SwapTotal" = none ∨ file.size? "SwapFree" = none) ∨ (∃ name ∈ swapNames, ¬ file.IsShort name) →
    (MemorySource.file.swap.run.run machine).1 = .ok none

/-- The outcome of one way to ask decides those of the other two. -/
theorem bytes_of_bytes? {properties : Properties} {name : String} {outcome : Except Failure (Option Int)}
    (read : properties.bytes? name = outcome) :
    properties.bytesOrZero name = outcome.map (·.getD 0) ∧
      properties.bytes name = outcome.bind fun
        | some n => .ok n
        | none => .error (.missingProperty name properties.sortedNames) := by
  unfold Properties.bytesOrZero Properties.bytes
  rw [read]
  rcases outcome with failure | (_ | n) <;> exact ⟨rfl, rfl⟩

/-- **A file of named sizes is read as it is written**, whatever the order, the blanks and the other lines are. -/
theorem parse_tells : file.Tells := by
  refine ⟨fun name line last short => ?_, fun name line last many => ?_, fun name absent => ?_, ?_, ?_, ?_, ?_⟩
  · have is : file.IsShort name := fun other also => by rwa [Option.some.inj (also.symm.trans last)]
    have read := file.bytes?_of_isShort is
    rw [size?, last] at read
    obtain ⟨orZero, strictly⟩ := bytes_of_bytes? read
    exact ⟨strictly, orZero, read⟩
  · have read := file.bytes?_of_long last many
    obtain ⟨orZero, strictly⟩ := bytes_of_bytes? read
    exact ⟨strictly, orZero, read⟩
  · have read := file.bytes?_parse name
    rw [absent] at read
    obtain ⟨orZero, strictly⟩ := bytes_of_bytes? read
    exact ⟨strictly, orZero, read⟩
  · intro machine total free shows short totalIs freeIs le
    rw [file.run_physical shows]
    exact file.exists_physicalMemory short totalIs freeIs le
  · intro machine shows nothing
    rw [file.run_physical shows]
    exact file.physicalMemory_eq_none nothing
  · intro machine total free shows short totalIs freeIs le
    rw [file.run_swap shows]
    exact file.exists_swap short totalIs freeIs le
  · intro machine shows nothing
    rw [file.run_swap shows]
    exact file.swap_eq_none nothing

/-- A line with a number of one digit too many. -/
def overlongLine : SizeLine where
  before := []
  name := "A"
  gap := space
  digits := powerDigits mostDigits
  unit? := none
  after := []
  isGap_before := ⟨nofun, nofun⟩
  name_nonempty := by decide
  name_solid := by decide
  name_uncolored := by decide
  gap_nonempty := space_nonempty
  isGap_gap := ⟨isPadding_space, isWithinLine_space⟩
  digits_nonempty := powerDigits_nonempty mostDigits
  isDigit := isDigit_powerDigits mostDigits
  isGap_unit := nofun
  isGap_after := ⟨nofun, nofun⟩

/-- A file that has only this line. -/
def overlongFile : SizeFile := ⟨[], nofun, .size overlongLine⟩

/-- **A number of too many digits is not read**, although it is a natural number in decimal. -/
theorem bytes_of_overlongFile :
    (Properties.parse overlongFile.text).bytes "A" = .error (.numeral (.tooManyDigits 4301)) ∧
      (Properties.parse overlongFile.text).bytes "A" ≠ .ok overlongLine.size := by
  have length : overlongLine.digits.length = 4301 := length_powerDigits mostDigits
  have many : mostDigits < overlongLine.digits.length := by
    rw [length]
    decide
  have last : overlongFile.lastLine? "A" = some overlongLine := rfl
  have read := (bytes_of_bytes? (overlongFile.bytes?_of_long last many)).2
  rw [length] at read
  refine ⟨read, ?_⟩
  rw [read]
  nofun

end SizeFile

end HostWatch
