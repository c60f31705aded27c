/-
**Texts cut at their blanks and line ends.**

Blanks around a text are dropped, and blanks in it end its words; line ends are such blanks. So a text that is put
together of words with blanks between them is cut into just these words, and one that is put together of lines into
these lines. A carriage return before a line feed is one line end, or two with nothing between them: to a reader
who passes over empty lines this is the same.

* `IsSolid`, `IsPadding`, `IsWithinLine`: texts without blanks, of blanks alone, and without line ends.
* `trimmed_append_append`: a part that begins and ends with a word is not trimmed.
* `trimmed_of_parts`: **what trimming leaves** of a text with blanks around it.
* `words_append_cons`: **the words of a text are those in front of a blank and those behind it.**
* `words_flatMap`: **columns with blanks in front of them are words of their own.**
* `HasColumns`, `hasColumns_iff`: the columns of a text are its words.
* `intercalate_append_cons`: a text that is put together of parts, around one of them.
* `filterMap_lines_append`: **what is read of the lines of a text**, the first line of which is known.
* `joinLines`, `filterMap_lines_joinLines`: **so lines that are put together are read one by one.**
* `lines_unifyLineEnds`: how line ends are written does not matter to the lines.
* `unifyLineEnds_append_cons`: around any other character line ends are unified apart.
-/

import HostWatch.Proofs.Text.Decimal

namespace HostWatch.Text

/-- A text without blanks. -/
def IsSolid (s : List Char) : Prop := ∀ c ∈ s, isBlank c = false

/-- A text of blanks alone. -/
def IsPadding (s : List Char) : Prop := ∀ c ∈ s, isBlank c = true

/-- A text without line ends. -/
def IsWithinLine (s : List Char) : Prop := ∀ c ∈ s, isLineEnd c = false

instance (s : List Char) : Decidable (IsSolid s) := List.decidableBAll _ s

instance (s : List Char) : Decidable (IsPadding s) := List.decidableBAll _ s

instance (s : List Char) : Decidable (IsWithinLine s) := List.decidableBAll _ s

/-- A single space. -/
def space : List Char := [' ']

theorem space_nonempty : space ≠ [] := List.cons_ne_nil _ _

theorem isPadding_space : IsPadding space := by decide

theorem isWithinLine_space : IsWithinLine space := by decide

section Characters

variable {s t : List Char}

theorem IsPadding.isBlank_head? (blanks : IsPadding s) (nonempty : s ≠ []) (t : List Char) :
    ∀ c, (s ++ t).head? = some c → isBlank c = true := by
  obtain ⟨first, rest, rfl⟩ := List.exists_cons_of_ne_nil nonempty
  rintro c ⟨⟩
  exact blanks first List.mem_cons_self

theorem isBlank_of_isLineEnd {c : Char} (ends : isLineEnd c = true) : isBlank c = true := by
  unfold isLineEnd at ends
  unfold isBlank
  simp at ends ⊢
  omega

theorem IsSolid.isWithinLine (solid : IsSolid s) : IsWithinLine s := by
  intro c member
  have visible := solid c member
  by_contra ends
  rw [isBlank_of_isLineEnd (by simpa using ends)] at visible
  cases visible

theorem IsWithinLine.append (first : IsWithinLine s) (second : IsWithinLine t) : IsWithinLine (s ++ t) :=
  List.forall_mem_append.2 ⟨first, second⟩

theorem isSolid_of_isDigit (digits : ∀ c ∈ s, c.isDigit) : IsSolid s := by
  intro c member
  have range := toNat_of_isDigit (digits c member)
  exact isBlank_of_visible (by omega)

end Characters

/-! ### Trimming -/

section Trimming

variable {word padding : List Char}

theorem trimmedStart_padding_append (blanks : IsPadding padding) (s : List Char) :
    trimmedStart (padding ++ s) = trimmedStart s :=
  List.dropWhile_append_of_pos blanks

theorem trimmedStart_append (nonempty : word ≠ []) (solid : IsSolid word) (s : List Char) :
    trimmedStart (word ++ s) = word ++ s := by
  obtain ⟨c, rest, rfl⟩ := List.exists_cons_of_ne_nil nonempty
  exact List.dropWhile_cons_of_neg (by simp [solid c List.mem_cons_self])

theorem trimmedEnd_append_padding (s : List Char) (blanks : IsPadding padding) :
    trimmedEnd (s ++ padding) = trimmedEnd s := by
  have blanks : IsPadding padding.reverse := fun c member => blanks c (List.mem_reverse.1 member)
  unfold trimmedEnd
  rw [List.reverse_append]
  exact congrArg List.reverse (trimmedStart_padding_append blanks _)

/-- Trimming does not reach behind a word. -/
theorem trimmedStart_append_word (before : List Char) (nonempty : word ≠ []) (solid : IsSolid word) (s : List Char) :
    trimmedStart (before ++ (word ++ s)) = trimmedStart before ++ (word ++ s) := by
  have kept := trimmedStart_append nonempty solid s
  unfold trimmedStart at kept ⊢
  rw [List.dropWhile_append, kept]
  split
  · rename_i nothing
    rw [List.isEmpty_iff.1 nothing, List.nil_append]
  · rfl

theorem trimmedEnd_word_append (s : List Char) (nonempty : word ≠ []) (solid : IsSolid word) (after : List Char) :
    trimmedEnd (s ++ word ++ after) = s ++ word ++ trimmedEnd after := by
  have solid : IsSolid word.reverse := fun c member => solid c (List.mem_reverse.1 member)
  have nonempty : word.reverse ≠ [] := fun none => nonempty (List.reverse_eq_nil_iff.1 none)
  unfold trimmedEnd
  rw [List.reverse_append, List.reverse_append]
  refine (congrArg List.reverse (trimmedStart_append_word after.reverse nonempty solid s.reverse)).trans ?_
  rw [List.reverse_append, List.reverse_append, List.reverse_reverse, List.reverse_reverse]
  rfl

/-- **A part of a text that begins and ends with a word is not trimmed.** -/
theorem trimmed_append_append (before after : List Char) {core first last rest front : List Char}
    (starts : core = first ++ rest) (nonempty : first ≠ []) (solid : IsSolid first)
    (ends : core = front ++ last) (nonempty' : last ≠ []) (solid' : IsSolid last) :
    trimmed (before ++ core ++ after) = trimmedStart before ++ core ++ trimmedEnd after := by
  have start : trimmedStart (before ++ core ++ after) = trimmedStart before ++ front ++ last ++ after := by
    rw [List.append_assoc, starts, List.append_assoc, trimmedStart_append_word before nonempty solid,
      ← List.append_assoc first, ← starts, ends]
    simp only [List.append_assoc]
  unfold trimmed
  rw [start, trimmedEnd_word_append _ nonempty' solid', ends, List.append_assoc (trimmedStart before)]

/-- **What trimming leaves** of a text that begins and ends with a word, but for blanks around it. -/
theorem trimmed_of_parts {before after core first last rest front : List Char} (blanks : IsPadding before)
    (blanks' : IsPadding after) (starts : core = first ++ rest) (nonempty : first ≠ []) (solid : IsSolid first)
    (ends : core = front ++ last) (nonempty' : last ≠ []) (solid' : IsSolid last) :
    trimmed (before ++ core ++ after) = core := by
  have none : trimmedStart before = [] := List.dropWhile_eq_nil_iff.2 blanks
  have none' : trimmedEnd after = [] := trimmedEnd_append_padding [] blanks'
  rw [trimmed_append_append before after starts nonempty solid ends nonempty' solid', none, none', List.nil_append,
    List.append_nil]

theorem trimmed_padding (blanks : IsPadding padding) : trimmed padding = [] := by
  have front := trimmedStart_padding_append blanks []
  rw [List.append_nil] at front
  unfold trimmed
  rw [front]
  rfl

end Trimming

/-! ### Words -/

section Words

variable {word padding : List Char}

@[simp] theorem words_nil : words [] = [] := by
  unfold words
  rw [List.splitOnP_nil]
  rfl

/-- **The words of a text are those in front of a blank and those behind it.** -/
theorem words_append_cons {c : Char} (blank : isBlank c = true) (s t : List Char) :
    words (s ++ c :: t) = words s ++ words t := by
  unfold words
  rw [List.splitOnP_append_cons s t blank, List.filter_append]

theorem words_cons {c : Char} (blank : isBlank c = true) (s : List Char) : words (c :: s) = words s := by
  have split := words_append_cons blank [] s
  rwa [words_nil, List.nil_append, List.nil_append] at split

theorem words_padding_append (blanks : IsPadding padding) (s : List Char) : words (padding ++ s) = words s := by
  induction padding with
  | nil => rfl
  | cons c padding ih =>
    obtain ⟨blank, blanks⟩ := List.forall_mem_cons.1 blanks
    exact (words_cons blank _).trans (ih blanks)

theorem words_of_isSolid (nonempty : word ≠ []) (solid : IsSolid word) : words word = [word] := by
  unfold words
  rw [List.splitOnP_eq_singleton solid, List.filter_cons_of_pos (by simpa using nonempty)]
  rfl

/-- A word with nothing or a blank behind it is the first word of a text. -/
theorem words_append (nonempty : word ≠ []) (solid : IsSolid word) {s : List Char}
    (apart : ∀ c, s.head? = some c → isBlank c = true) : words (word ++ s) = word :: words s := by
  cases s with
  | nil => rw [List.append_nil, words_of_isSolid nonempty solid, words_nil]
  | cons c rest =>
    have blank := apart c rfl
    rw [words_append_cons blank, words_of_isSolid nonempty solid, words_cons blank]
    rfl

end Words

/-! ### Columns -/

section Columns

variable {α : Type} {gap word : α → List Char} {after : List Char}

/-- Columns, each with blanks in front of it, begin with a blank, if what stands behind them does. -/
theorem isBlank_head?_flatMap (isPadding : ∀ column, IsPadding (gap column)) (nonempty : ∀ column, gap column ≠ [])
    (apart : ∀ c, after.head? = some c → isBlank c = true) (columns : List α) :
    ∀ c, (columns.flatMap (fun column => gap column ++ word column) ++ after).head? = some c → isBlank c = true := by
  cases columns with
  | nil => exact apart
  | cons first rest =>
    rw [List.flatMap_cons, List.append_assoc, List.append_assoc]
    exact (isPadding first).isBlank_head? (nonempty first) _

/-- **Columns with blanks in front of them are words of their own.** -/
theorem words_flatMap (isPadding : ∀ column, IsPadding (gap column)) (nonempty : ∀ column, gap column ≠ [])
    (isSolid : ∀ column, IsSolid (word column)) (word_nonempty : ∀ column, word column ≠ [])
    (apart : ∀ c, after.head? = some c → isBlank c = true) (columns : List α) :
    words (columns.flatMap (fun column => gap column ++ word column) ++ after) = columns.map word ++ words after := by
  induction columns with
  | nil => rfl
  | cons first rest ih =>
    have behind : ∀ c, (rest.flatMap (fun column => gap column ++ word column) ++ after).head? = some c →
        isBlank c = true := isBlank_head?_flatMap isPadding nonempty apart rest
    rw [List.flatMap_cons, List.append_assoc, List.append_assoc, words_padding_append (isPadding first),
      words_append (word_nonempty first) (isSolid first) behind, ih]
    rfl

/-- **The columns of a text**, with blanks between them and around them. -/
inductive HasColumns : List Char → List (List Char) → Prop
  | nil : HasColumns [] []
  | blank {c : Char} {s : List Char} {columns : List (List Char)} (first : isBlank c = true)
      (behind : HasColumns s columns) : HasColumns (c :: s) columns
  | column {word s : List Char} {columns : List (List Char)} (nonempty : word ≠ []) (solid : IsSolid word)
      (apart : ∀ c, s.head? = some c → isBlank c = true) (behind : HasColumns s columns) :
      HasColumns (word ++ s) (word :: columns)

theorem HasColumns.words_eq {s : List Char} {columns : List (List Char)} (has : HasColumns s columns) :
    words s = columns := by
  induction has with
  | nil => exact words_nil
  | blank first _ ih => exact (words_cons first _).trans ih
  | column nonempty solid apart _ ih => rw [words_append nonempty solid apart, ih]

theorem exists_hasColumns (s : List Char) : ∃ columns, HasColumns s columns := by
  induction s with
  | nil => exact ⟨[], .nil⟩
  | cons c s ih =>
    obtain ⟨columns, has⟩ := ih
    cases visible : isBlank c with
    | true => exact ⟨columns, .blank visible has⟩
    | false =>
      have solid : IsSolid [c] := List.forall_mem_singleton.2 visible
      -- The character is a column of its own, or the first one of the column behind it.
      cases has with
      | nil => exact ⟨[[c]], .column (List.cons_ne_nil c []) solid nofun .nil⟩
      | blank first behind =>
        refine ⟨[c] :: columns, .column (List.cons_ne_nil c []) solid ?_ (.blank first behind)⟩
        rintro _ ⟨⟩
        exact first
      | @column word s columns nonempty solid' apart behind =>
        have longer : IsSolid (c :: word) := List.forall_mem_cons.2 ⟨visible, solid'⟩
        exact ⟨(c :: word) :: columns, .column (List.cons_ne_nil c word) longer apart behind⟩

/-- **The columns of a text are its words.** -/
theorem hasColumns_iff {s : List Char} {columns : List (List Char)} : HasColumns s columns ↔ words s = columns := by
  constructor
  · exact HasColumns.words_eq
  · rintro rfl
    obtain ⟨columns, has⟩ := exists_hasColumns s
    exact has.words_eq ▸ has

end Columns

/-! ### Parts -/

section Parts

variable {α : Type} (separator : List α)

theorem intercalate_cons (part : List α) (after : List (List α)) :
    separator.intercalate (part :: after) = part ++ after.flatMap (separator ++ ·) := by
  induction after generalizing part with
  | nil => rw [List.intercalate_singleton, List.flatMap_nil, List.append_nil]
  | cons next after ih => rw [List.intercalate_cons_cons, ih, List.flatMap_cons, List.append_assoc, List.append_assoc]

/-- **Around one of its parts** a text has each other part with a separator on the side of that one. -/
theorem intercalate_append_cons (before : List (List α)) (part : List α) (after : List (List α)) :
    separator.intercalate (before ++ part :: after) =
      before.flatMap (· ++ separator) ++ part ++ after.flatMap (separator ++ ·) := by
  induction before with
  | nil => exact intercalate_cons separator part after
  | cons first before ih =>
    have behind : before ++ part :: after ≠ [] := List.append_ne_nil_of_right_ne_nil before (List.cons_ne_nil part after)
    rw [List.cons_append, List.intercalate_cons_of_ne_nil behind, ih, List.flatMap_cons]
    simp only [List.append_assoc]

end Parts

/-! ### Lines -/

section Lines

variable {α : Type} {read : List Char → Option α} {body : List Char}

theorem linesFrom_cons {c : Char} (ends : isLineEnd c = false) (current s : List Char) :
    linesFrom current (c :: s) = linesFrom (c :: current) s := by
  rw [linesFrom]
  · rw [ends]
    rfl
  · rintro rest rfl -
    cases ends

theorem linesFrom_append (within : IsWithinLine body) (current s : List Char) :
    linesFrom current (body ++ s) = linesFrom (body.reverse ++ current) s := by
  induction body generalizing current with
  | nil => rfl
  | cons c body ih =>
    obtain ⟨ends, within⟩ := List.forall_mem_cons.1 within
    rw [List.cons_append, linesFrom_cons ends, ih within, List.reverse_cons, List.append_assoc]
    rfl

/-- The last line of a text, which has no line end. -/
theorem filterMap_lines (empty : read [] = none) (within : IsWithinLine body) :
    (lines body).filterMap read = (read body).toList := by
  have all : lines body = if body.reverse.isEmpty then [] else [body] := by
    have from_ := linesFrom_append within [] []
    rw [List.append_nil, List.append_nil] at from_
    unfold lines
    rw [from_, linesFrom, List.reverse_reverse]
  rw [all]
  split
  · rename_i nothing
    rw [List.reverse_eq_nil_iff.1 (List.isEmpty_iff.1 nothing), empty]
    rfl
  · rw [List.filterMap_cons]
    cases read body <;> rfl

/-- **What is read of the lines of a text**, the first line of which is known. -/
theorem filterMap_lines_append (empty : read [] = none) (within : IsWithinLine body) {c : Char}
    (ends : isLineEnd c = true) (s : List Char) :
    (lines (body ++ c :: s)).filterMap read = (read body).toList ++ (lines s).filterMap read := by
  have first (rest : List (List Char)) :
      (body :: rest).filterMap read = (read body).toList ++ rest.filterMap read := by
    rw [List.filterMap_cons]
    cases read body <;> rfl
  unfold lines
  rw [linesFrom_append within, List.append_nil]
  by_cases pair : c = '\r' ∧ s.head? = some '\n'
  -- The line feed belongs to the same line end, or it ends an empty line.
  · obtain ⟨rfl, is⟩ := pair
    obtain ⟨rest, rfl⟩ := List.head?_eq_some_iff.1 is
    have second : linesFrom [] ('\n' :: rest) = [] :: linesFrom [] rest := by
      rw [linesFrom]
      · rfl
      · rintro rest ⟨⟩
    rw [linesFrom, List.reverse_reverse, first, second, List.filterMap_cons_none empty]
  · rw [linesFrom, ends, if_pos rfl, List.reverse_reverse, first]
    rintro rest rfl rfl
    exact pair ⟨rfl, rfl⟩

/-- The text of lines, each but the last one with its end. -/
def joinLines (ended : List (List Char × Char)) (last : List Char) : List Char :=
  ended.flatMap (fun line => line.1 ++ [line.2]) ++ last

theorem joinLines_cons (body : List Char) (c : Char) (ended : List (List Char × Char)) (last : List Char) :
    joinLines ((body, c) :: ended) last = body ++ c :: joinLines ended last := by
  unfold joinLines
  rw [List.flatMap_cons, List.append_assoc, List.append_assoc]
  rfl

/-- **What is written line by line is read line by line**, whatever ends the lines. -/
theorem filterMap_lines_joinLines {α : Type} {text : α → List Char} (empty : read [] = none)
    (within : ∀ row, IsWithinLine (text row)) {ended : List (α × Char)} (ends : ∀ row ∈ ended, isLineEnd row.2 = true)
    (last : α) :
    (lines (joinLines (ended.map fun row => (text row.1, row.2)) (text last))).filterMap read =
      (ended.map Prod.fst ++ [last]).filterMap fun row => read (text row) := by
  have one (row : α) : (read (text row)).toList = [row].filterMap fun row => read (text row) := by
    rw [List.filterMap_cons, List.filterMap_nil]
    cases read (text row) <;> rfl
  induction ended with
  | nil => exact (filterMap_lines empty (within last)).trans (one last)
  | cons first rest ih =>
    obtain ⟨row, c⟩ := first
    obtain ⟨end_, ends⟩ := List.forall_mem_cons.1 ends
    rw [List.map_cons, joinLines_cons, filterMap_lines_append empty (within row) end_, ih ends, one,
      ← List.filterMap_append]
    rfl

/-- **How line ends are written does not matter** to the lines of a text. -/
theorem lines_unifyLineEnds (s : List Char) : lines (unifyLineEnds s) = lines s := by
  have from_ (current : List Char) : linesFrom current (unifyLineEnds s) = linesFrom current s := by
    induction s using unifyLineEnds.induct generalizing current with
    | case1 => rfl
    | case2 rest ih =>
      rw [unifyLineEnds, linesFrom, linesFrom]
      · rw [if_pos (by decide), ih]
      · rintro rest ⟨⟩
    | case3 c rest other ih =>
      have behind : linesFrom current (c :: rest) =
          if isLineEnd c then current.reverse :: linesFrom [] rest else linesFrom (c :: current) rest := by
        rw [linesFrom]
        exact other
      rw [unifyLineEnds, behind]
      · by_cases carriage : c = '\r'
        · subst carriage
          rw [if_pos rfl, linesFrom]
          · rw [if_pos (by decide), if_pos (by decide), ih]
          · rintro rest ⟨⟩
        · rw [if_neg carriage, linesFrom]
          · rw [ih, ih]
          · rintro rest same
            exact absurd same carriage
      · exact other
  exact from_ []

end Lines

/-! ### Line ends as they are read from a file -/

section LineEnds

variable {s : List Char} {c : Char}

/-- A character that belongs to no line end stands between texts whose line ends are unified apart. -/
theorem unifyLineEnds_append_cons (notReturn : c ≠ '\r') (notFeed : c ≠ '\n') (s t : List Char) :
    unifyLineEnds (s ++ c :: t) = unifyLineEnds s ++ c :: unifyLineEnds t := by
  induction s using unifyLineEnds.induct with
  | case1 =>
    have kept : unifyLineEnds (c :: t) = c :: unifyLineEnds t := by
      rw [unifyLineEnds, if_neg notReturn]
      intro rest is _
      exact notReturn is
    exact kept
  | case2 rest ih =>
    rw [List.cons_append, List.cons_append, unifyLineEnds, ih, unifyLineEnds]
    rfl
  | case3 d rest other ih =>
    rw [List.cons_append, unifyLineEnds, ih, unifyLineEnds]
    · rfl
    · exact other
    · rintro behind is feed
      cases rest with
      | nil => exact notFeed (List.cons.inj feed).1
      | cons e rest => exact other rest is (by rw [(List.cons.inj feed).1])

/-- Unified line ends bring no other characters in. -/
theorem mem_of_mem_unifyLineEnds (member : c ∈ unifyLineEnds s) : c ∈ s ∨ c = '\n' := by
  induction s using unifyLineEnds.induct with
  | case1 => exact .inl member
  | case2 rest ih =>
    rw [unifyLineEnds] at member
    rcases List.mem_cons.1 member with feed | member
    · exact .inr feed
    · exact (ih member).imp_left fun within => List.mem_cons_of_mem _ (List.mem_cons_of_mem _ within)
  | case3 d rest other ih =>
    rw [unifyLineEnds] at member
    · rcases List.mem_cons.1 member with first | member
      · split at first
        · exact .inr first
        · exact .inl (first ▸ List.mem_cons_self)
      · exact (ih member).imp_left (List.mem_cons_of_mem _)
    · exact other

end LineEnds

end HostWatch.Text
