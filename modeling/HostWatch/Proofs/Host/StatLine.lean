/-
**No name of a command changes what is read of a process.**

The text with the counters of a process or a thread has the name of its command in parentheses, and the name may
hold anything. Behind it stand a letter and integers with blanks between them, and no parenthesis: so the last closing
one is that of the name, and what is read behind it does not hang on the name.

* `StatLine`: what stands behind the name, and the whole text for a name.
* `StatLine.words_behind`: **the columns behind the name.**
* `StatLine.parse_text`: **the counters that are read**, and `StatLine.tells_unifyLineEnds`: the name of the state.
* `StatLine.reads_text`: **what both readers make of the text for any name.**
* `StatLine.parse_overlong`: an integer of too many digits is not read.
-/

import HostWatch.Proofs.Host.Snapshot
import HostWatch.Proofs.Text.Words

namespace HostWatch

open Text

/-! ### Fields -/

/-- An integer in decimal with blanks in front of it. -/
structure StatField where
  gap : List Char
  sign : List Char
  digits : List Char
  gap_nonempty : gap ≠ []
  isPadding : IsPadding gap
  isSign : sign ∈ signs
  digits_nonempty : digits ≠ []
  isDigit : ∀ c ∈ digits, c.isDigit

namespace StatField

variable (field : StatField)

def word : List Char := field.sign ++ field.digits

def text : List Char := field.gap ++ field.word

def value : Int :=
  if field.sign = ['-'] then -(Nat.ofDigitChars 10 field.digits 0 : Int) else Nat.ofDigitChars 10 field.digits 0

/-- An integer that has not too many digits to be read. -/
def IsShort : Prop := field.digits.length ≤ mostDigits

theorem word_nonempty : field.word ≠ [] := List.append_ne_nil_of_right_ne_nil _ field.digits_nonempty

theorem isSolid_word : IsSolid field.word := isBlank_of_mem_signed field.isSign field.isDigit

theorem readInteger_word : readInteger field.word =
    if mostDigits < field.digits.length then .error (.numeral (.tooManyDigits field.digits.length))
    else .ok field.value := by
  unfold readInteger word
  rw [readInteger_signed field.isSign field.isDigit field.digits_nonempty]
  split <;> rfl

theorem notMem_text : ')' ∉ field.text := by
  have signless : ∀ sign ∈ signs, ')' ∉ sign := by decide
  intro member
  rcases List.mem_append.1 member with blank | member
  · exact absurd (field.isPadding ')' blank) (by decide)
  · rcases List.mem_append.1 member with sign | digit
    · exact signless field.sign field.isSign sign
    · exact absurd (field.isDigit ')' digit) (by decide)

end StatField

/-! ### Lines -/

/-- **What stands behind the name of a command**, and the number of the process in front of it. -/
structure StatLine where
  /-- The number of the process. -/
  id : Int
  /-- The letter of the state. -/
  letter : Char
  fields : List StatField
  /-- The blanks at the end of the text. -/
  after : List Char
  letter_visible : isBlank letter = false
  letter_open : letter ≠ ')'
  enough : 21 ≤ fields.length
  isPadding_after : IsPadding after

namespace StatLine

variable (line : StatLine)

/-- The integers of a line, with the blanks between them. -/
def fieldsText (fields : List StatField) (after : List Char) : List Char := fields.flatMap StatField.text ++ after

/-- What stands behind the name and its parenthesis. -/
def behind : List Char := ' ' :: line.letter :: fieldsText line.fields line.after

/-- **The text for a name.** -/
def text (name : List Char) : List Char := ((toString line.id).toList ++ [' ', '('] ++ name) ++ ')' :: line.behind

/-- The fields are counted from the number of the process on; the letter is the third one. -/
def field (number : Nat) (known : 4 ≤ number ∧ number ≤ 24) : StatField :=
  line.fields.get ⟨number - 4, by have := line.enough; omega⟩

/-- What stands behind a field or the letter is nothing, or begins with a blank. -/
theorem isBlank_head? {after : List Char} (blanks : IsPadding after) (fields : List StatField) :
    ∀ c, (fieldsText fields after).head? = some c → isBlank c = true :=
  isBlank_head?_flatMap StatField.isPadding StatField.gap_nonempty
    (fun c first => blanks c (List.mem_of_mem_head? first)) fields

theorem words_fieldsText {after : List Char} (blanks : IsPadding after) (fields : List StatField) :
    words (fieldsText fields after) = fields.map StatField.word := by
  have none := words_padding_append blanks []
  rw [List.append_nil, words_nil] at none
  have columns := words_flatMap StatField.isPadding StatField.gap_nonempty StatField.isSolid_word
    StatField.word_nonempty (fun c first => blanks c (List.mem_of_mem_head? first)) fields
  rwa [none, List.append_nil] at columns

/-- **The columns behind the name**: the letter and the integers. -/
theorem words_behind : words (line.behind.drop 1) = [line.letter] :: line.fields.map StatField.word := by
  have solid : IsSolid [line.letter] := List.forall_mem_singleton.2 line.letter_visible
  have columns := words_append (List.cons_ne_nil _ _) solid (isBlank_head? line.isPadding_after line.fields)
  rwa [words_fieldsText line.isPadding_after] at columns

theorem notMem_behind : ')' ∉ line.behind := by
  intro member
  rcases List.mem_cons.1 member with space | member
  · exact absurd space (by decide)
  · rcases List.mem_cons.1 member with letter | member
    · exact line.letter_open letter.symm
    · rcases List.mem_append.1 member with member | blank
      · obtain ⟨field, -, member⟩ := List.mem_flatMap.1 member
        exact field.notMem_text member
      · exact absurd (line.isPadding_after ')' blank) (by decide)

/-! ### The counters -/

theorem column_eq (number : Nat) (known : 4 ≤ number ∧ number ≤ 24) :
    CpuTicks.column ([line.letter] :: line.fields.map StatField.word) (number - 3) =
      readInteger (line.field number known).word := by
  have enough := line.enough
  have place : number - 3 = (number - 4) + 1 := by omega
  unfold CpuTicks.column
  rw [place, List.getElem?_cons_succ, List.getElem?_map, List.getElem?_eq_getElem (by omega)]
  rfl

/-- **The counters that are read** are three fields, whatever the name is. -/
theorem parse_text (name : List Char) : ProcessStat.parse (line.text name) = do
    return ⟨← readInteger (line.field 14 (by decide)).word, ← readInteger (line.field 15 (by decide)).word,
      ← readInteger (line.field 24 (by decide)).word⟩ := by
  unfold ProcessStat.parse text
  rw [LiveThread.behindName_append _ line.notMem_behind]
  show (do
    let columns := words (line.behind.drop 1)
    return ⟨← CpuTicks.column columns 11, ← CpuTicks.column columns 12, ← CpuTicks.column columns 21⟩ :
      Except Failure ProcessStat) = _
  rw [line.words_behind]
  show (do
    return ⟨← CpuTicks.column _ (14 - 3), ← CpuTicks.column _ (15 - 3), ← CpuTicks.column _ (24 - 3)⟩ :
      Except Failure ProcessStat) = _
  rw [line.column_eq 14 (by decide), line.column_eq 15 (by decide), line.column_eq 24 (by decide)]

theorem readInteger_eq_ok_iff (field : StatField) (n : Int) :
    readInteger field.word = .ok n ↔ field.IsShort ∧ n = field.value := by
  rw [field.readInteger_word, StatField.IsShort, ← Nat.not_lt]
  by_cases many : mostDigits < field.digits.length
  · rw [if_pos many]
    exact ⟨nofun, fun short => absurd many short.1⟩
  · rw [if_neg many]
    exact ⟨fun read => ⟨many, (Except.ok.inj read).symm⟩, fun is => is.2 ▸ rfl⟩

/-- Nothing but too many digits keeps a field from being read. -/
theorem tooManyDigits_of_readInteger {field : StatField} {failure : Failure}
    (fails : readInteger field.word = .error failure) :
    mostDigits < field.digits.length ∧ failure = .numeral (.tooManyDigits field.digits.length) := by
  rw [field.readInteger_word] at fails
  split at fails
  · rename_i many
    exact ⟨many, (Except.error.inj fails).symm⟩
  · cases fails

/-! ### The state -/

def state : String := (LiveThread.stateNames.lookup line.letter).getD LiveThread.unknownState

/-- **The state is told by the letter**, also where the line ends of the text are unified. -/
theorem tells_unifyLineEnds (name : List Char) : LiveThread.Tells (unifyLineEnds (line.text name)) line.state := by
  have notReturn : line.letter ≠ '\r' := by
    intro is
    exact absurd line.letter_visible (by rw [is]; decide)
  have notFeed : line.letter ≠ '\n' := by
    intro is
    exact absurd line.letter_visible (by rw [is]; decide)
  have behind_eq : unifyLineEnds line.behind =
      ' ' :: line.letter :: unifyLineEnds (fieldsText line.fields line.after) := by
    have space : ' ' ≠ '\r' ∧ ' ' ≠ '\n' := by decide
    have first := unifyLineEnds_append_cons space.1 space.2 [] (line.letter :: fieldsText line.fields line.after)
    have second := unifyLineEnds_append_cons notReturn notFeed [] (fieldsText line.fields line.after)
    rw [List.nil_append] at first second
    unfold behind
    rw [first, second]
    rfl
  refine ⟨_, unifyLineEnds line.behind, unifyLineEnds_append_cons (by decide) (by decide) _ _, fun member => ?_, ?_⟩
  · rcases mem_of_mem_unifyLineEnds member with within | feed
    · exact line.notMem_behind within
    · exact absurd feed (by decide)
  · rw [behind_eq]
    rfl

/-! ### Both readers -/

/-- **What is read of a text, whatever the name in it is.** -/
structure Reads (name : List Char) : Prop where
  /-- The counters are the fields 14, 15 and 24, unless one of these has too many digits. -/
  counters_iff : ∀ stat, ProcessStat.parse (line.text name) = .ok stat ↔
    (line.field 14 (by decide)).IsShort ∧ (line.field 15 (by decide)).IsShort ∧ (line.field 24 (by decide)).IsShort ∧
      stat = ⟨(line.field 14 (by decide)).value, (line.field 15 (by decide)).value,
        (line.field 24 (by decide)).value⟩
  /-- Nothing but such a field makes the reading fail. -/
  counters_error : ∀ failure, ProcessStat.parse (line.text name) = .error failure →
    ∃ field ∈ [line.field 14 (by decide), line.field 15 (by decide), line.field 24 (by decide)],
      mostDigits < field.digits.length ∧ failure = .numeral (.tooManyDigits field.digits.length)
  /-- Another name makes no difference, also where they are not read. -/
  counters_eq : ∀ other, ProcessStat.parse (line.text name) = ProcessStat.parse (line.text other)
  /-- A thread with this text in its state file has the state with the name of the letter, or an unknown one. -/
  state_eq : ∀ (machine : Machine) (threads : List LiveThread) (thread : LiveThread) (nativeId : Int),
    machine.sight.platform = .linux → thread.nativeId = some nativeId →
    LiveThread.stateFileOf threads nativeId = .text (String.ofList (line.text name)) →
    ((LiveThread.systemState threads thread).run.run machine).1 = .ok line.state

/-- **No name of a command changes what is read.** -/
theorem reads_text (name : List Char) : line.Reads name := by
  refine ⟨fun stat => ?_, fun failure fails => ?_, fun other => ?_,
    fun machine threads thread nativeId linux native file => ?_⟩
  · rw [line.parse_text]
    constructor
    · intro parsed
      obtain ⟨user, userRead, parsed⟩ := exists_of_bind_eq_ok parsed
      obtain ⟨system, systemRead, parsed⟩ := exists_of_bind_eq_ok parsed
      obtain ⟨pages, pagesRead, parsed⟩ := exists_of_bind_eq_ok parsed
      obtain ⟨short, rfl⟩ := (readInteger_eq_ok_iff _ _).1 userRead
      obtain ⟨short', rfl⟩ := (readInteger_eq_ok_iff _ _).1 systemRead
      obtain ⟨short'', rfl⟩ := (readInteger_eq_ok_iff _ _).1 pagesRead
      exact ⟨short, short', short'', (Except.ok.inj parsed).symm⟩
    · rintro ⟨short, short', short'', rfl⟩
      rw [(readInteger_eq_ok_iff _ _).2 ⟨short, rfl⟩, (readInteger_eq_ok_iff _ _).2 ⟨short', rfl⟩,
        (readInteger_eq_ok_iff _ _).2 ⟨short'', rfl⟩]
      rfl
  · rw [line.parse_text] at fails
    rcases bind_eq_error_iff.1 fails with user | ⟨_, -, fails⟩
    · exact ⟨_, List.mem_cons_self, tooManyDigits_of_readInteger user⟩
    rcases bind_eq_error_iff.1 fails with system | ⟨_, -, fails⟩
    · exact ⟨_, List.mem_cons_of_mem _ List.mem_cons_self, tooManyDigits_of_readInteger system⟩
    rcases bind_eq_error_iff.1 fails with pages | ⟨_, -, ends⟩
    · exact ⟨_, List.mem_cons_of_mem _ (List.mem_cons_of_mem _ List.mem_cons_self), tooManyDigits_of_readInteger pages⟩
    · cases ends
  · rw [line.parse_text, line.parse_text]
  · refine ((LiveThread.endsAs_systemState threads thread).ends_iff machine line.state).2 ?_
    unfold LiveThread.InSystemState LiveThread.stateText?
    rw [native, linux]
    dsimp only
    rw [file]
    show LiveThread.Tells (unifyLineEnds (String.ofList (line.text name)).toList) line.state
    rw [String.toList_ofList]
    exact line.tells_unifyLineEnds name

/-! ### Too many digits -/

/-- A field with a one and so many zeros. -/
def fieldOf (more : Nat) : StatField where
  gap := space
  sign := []
  digits := powerDigits more
  gap_nonempty := space_nonempty
  isPadding := isPadding_space
  isSign := List.mem_cons_self
  digits_nonempty := powerDigits_nonempty more
  isDigit := isDigit_powerDigits more

/-- A line whose field 14 has one digit too many. -/
def overlong : StatLine where
  id := 1
  letter := 'R'
  fields := List.replicate 10 (fieldOf 0) ++ fieldOf mostDigits :: List.replicate 10 (fieldOf 0)
  after := []
  letter_visible := by decide
  letter_open := by decide
  enough := by simp
  isPadding_after := nofun

/-- **An integer of too many digits is not read.** -/
theorem parse_overlong :
    ProcessStat.parse (overlong.text ['c']) = .error (.numeral (.tooManyDigits 4301)) ∧
      ProcessStat.parse (overlong.text ['c']) ≠ .ok ⟨(overlong.field 14 (by decide)).value,
        (overlong.field 15 (by decide)).value, (overlong.field 24 (by decide)).value⟩ := by
  have length : (overlong.field 14 (by decide)).digits.length = 4301 := length_powerDigits mostDigits
  have many : mostDigits < (overlong.field 14 (by decide)).digits.length := by
    rw [length]
    decide
  have read := (overlong.field 14 (by decide)).readInteger_word
  rw [if_pos many, length] at read
  have fails : ProcessStat.parse (overlong.text ['c']) = .error (.numeral (.tooManyDigits 4301)) := by
    rw [overlong.parse_text, read]
    rfl
  refine ⟨fails, ?_⟩
  rw [fails]
  nofun

end StatLine

end HostWatch
