/-
**Texts that denote integers.**

A decimal numeral is made of groups of digits, one underscore between a group and the next one, with a sign before
them or none. The reader takes in the longest stretch of digits and underscores, cuts it at the underscores and looks
at what is left: it finds an integer exactly where the whole text is a numeral, and one of not too many digits.

* `Denotes`: the texts of integers.
* `readInteger_trimmed_iff`: **the reader finds an integer in a text exactly where the trimmed text denotes it**.
* `Denotes.mem`: nothing but signs, underscores and digits stands in a numeral.
* `not_denotes_shortestText`: no text of a real number is the text of an integer.
-/

import HostWatch.Binary64.Decimal
import HostWatch.Proofs.Outcomes
import HostWatch.Proofs.Text.Decimal
import Mathlib.Data.List.DropRight

namespace HostWatch.Text

/-! ### Groups of digits -/

/-- Groups of digits, not too many digits altogether. -/
structure AreGroups (groups : List (List Char)) : Prop where
  nonempty : groups ≠ []
  filled : ∀ group ∈ groups, group ≠ []
  digits : ∀ group ∈ groups, ∀ c ∈ group, (decimalDigit? c).isSome
  short : groups.flatten.length ≤ mostDigits

/-- **A text denotes an integer**: groups of digits between single underscores, with a sign or without one. -/
inductive Denotes : List Char → Int → Prop
  | plain {groups : List (List Char)} (areGroups : AreGroups groups) :
      Denotes (['_'].intercalate groups) (numberOf groups.flatten)
  | positive {groups : List (List Char)} (areGroups : AreGroups groups) :
      Denotes ('+' :: ['_'].intercalate groups) (numberOf groups.flatten)
  | negative {groups : List (List Char)} (areGroups : AreGroups groups) :
      Denotes ('-' :: ['_'].intercalate groups) (-(numberOf groups.flatten : Int))

theorem lt_ten_of_decimalDigit? {c : Char} {value : Nat} (digit : decimalDigit? c = some value) : value < 10 := by
  obtain ⟨start, found, rfl⟩ := Option.map_eq_some_iff.1 digit
  have range := List.find?_some found
  simp only [Bool.and_eq_true, decide_eq_true_eq] at range
  omega

theorem ten_le_of_letterDigit? {c : Char} {value : Nat} (letter : letterDigit? c = some value) : 10 ≤ value := by
  unfold letterDigit? at letter
  split at letter
  · cases letter
    omega
  · split at letter
    · cases letter
      omega
    · cases letter

/-- Of the digits to base ten, none is a letter. -/
theorem digitTo?_ten (c : Char) : digitTo? 10 c = decimalDigit? c := by
  unfold digitTo?
  cases digit : decimalDigit? c with
  | some value =>
    exact Option.filter_some_pos (decide_eq_true (lt_ten_of_decimalDigit? digit))
  | none =>
    rw [Option.none_or]
    cases letter : letterDigit? c with
    | none => rfl
    | some value =>
      have least := ten_le_of_letterDigit? letter
      exact Option.filter_some_neg (by simpa using least)

theorem isNumeralPart_ten_iff (c : Char) : isNumeralPart 10 c = true ↔ (decimalDigit? c).isSome ∨ c = '_' := by
  unfold isNumeralPart
  rw [digitTo?_ten, Bool.or_eq_true, beq_iff_eq]

/-- What a text is split into are stretches of it without the character that splits it. -/
theorem mem_of_mem_splitOn {α : Type} [BEq α] [LawfulBEq α] {s group : List α} {separator : α}
    (member : group ∈ s.splitOn separator) : ∀ c ∈ group, c ∈ s ∧ c ≠ separator := by
  induction s generalizing group with
  | nil =>
    obtain rfl : group = [] := List.mem_singleton.1 (List.splitOn_nil separator ▸ member)
    exact nofun
  | cons head rest ih =>
    have later {other : List α} (found : other ∈ rest.splitOn separator) :
        ∀ c ∈ other, c ∈ head :: rest ∧ c ≠ separator := by
      intro c among
      obtain ⟨within, different⟩ := ih found c among
      exact ⟨List.mem_cons_of_mem head within, different⟩
    rw [List.splitOn_cons_eq_if_modifyHead] at member
    split at member
    · rcases List.mem_cons.1 member with rfl | found
      · exact nofun
      · exact later found
    · rename_i different
      cases groups : rest.splitOn separator with
      | nil => exact absurd groups (List.splitOn_ne_nil separator rest)
      | cons first others =>
        rw [groups, List.modifyHead_cons] at member
        rcases List.mem_cons.1 member with rfl | found
        · rw [List.forall_mem_cons]
          exact ⟨⟨List.mem_cons_self, by simpa using different⟩, later (groups ▸ List.mem_cons_self)⟩
        · exact later (groups ▸ List.mem_cons_of_mem first found)

theorem mem_of_mem_intercalate {groups : List (List Char)} {c : Char} (member : c ∈ ['_'].intercalate groups) :
    c = '_' ∨ ∃ group ∈ groups, c ∈ group := by
  induction groups with
  | nil => cases member
  | cons group groups ih =>
    cases groups with
    | nil =>
      rw [List.intercalate_singleton] at member
      exact .inr ⟨group, List.mem_cons_self, member⟩
    | cons next groups =>
      rw [List.intercalate_cons_cons, List.mem_append, List.mem_append, List.mem_singleton] at member
      rcases member with (first | rfl) | others
      · exact .inr ⟨group, List.mem_cons_self, first⟩
      · exact .inl rfl
      · exact (ih others).imp_right fun ⟨other, found, among⟩ => ⟨other, List.mem_cons_of_mem group found, among⟩

namespace AreGroups

variable {groups : List (List Char)}

theorem isNumeralPart (areGroups : AreGroups groups) :
    ∀ c ∈ ['_'].intercalate groups, Text.isNumeralPart 10 c = true := by
  intro c member
  rw [isNumeralPart_ten_iff]
  rcases mem_of_mem_intercalate member with rfl | ⟨group, found, among⟩
  · exact .inr rfl
  · exact .inl (areGroups.digits group found c among)

theorem notMem_underscore (areGroups : AreGroups groups) : ∀ group ∈ groups, '_' ∉ group := by
  intro group found among
  exact absurd (areGroups.digits group found '_' among) (by decide)

end AreGroups

/-- **A natural number is read where groups of digits are the whole of a text.** -/
theorem readNatural_eq_ok_iff {whole : List Glyph} {s : List Char} {n : Nat} :
    readNatural 10 whole s = .ok n ↔
      ∃ groups, AreGroups groups ∧ s = ['_'].intercalate groups ∧ n = numberOf groups.flatten := by
  constructor
  · intro read
    unfold readNatural at read
    dsimp only at read
    split at read
    · cases read
    · rename_i filled
      split at read
      · cases read
      · rename_i short
        split at read
        · rename_i complete
          have parts : ∀ c ∈ s, isNumeralPart 10 c = true :=
            List.dropWhile_eq_nil_iff.1 (List.isEmpty_iff.1 complete)
          rw [List.takeWhile_eq_self_iff.2 parts] at filled short read
          refine ⟨s.splitOn '_', ⟨List.splitOn_ne_nil '_' s, ?_, ?_, ?_⟩, (List.intercalate_splitOn '_').symm,
            (Except.ok.inj read).symm⟩
          · rintro group found rfl
            exact filled (List.any_eq_true.2 ⟨[], found, rfl⟩)
          · intro group found c among
            obtain ⟨within, different⟩ := mem_of_mem_splitOn found c among
            exact ((isNumeralPart_ten_iff c).1 (parts c within)).resolve_right different
          · exact Nat.le_of_not_lt fun many => short ⟨rfl, many⟩
        · cases read
  · rintro ⟨groups, areGroups, rfl, rfl⟩
    have filled : groups.any List.isEmpty = false :=
      List.any_eq_false.2 fun group found empty => areGroups.filled group found (List.isEmpty_iff.1 empty)
    unfold readNatural
    rw [List.takeWhile_eq_self_iff.2 areGroups.isNumeralPart, List.dropWhile_eq_nil_iff.2 areGroups.isNumeralPart,
      List.splitOn_intercalate '_' areGroups.notMem_underscore areGroups.nonempty]
    dsimp only
    rw [filled, if_neg (by decide), if_neg fun many => Nat.not_lt.2 areGroups.short many.2]
    rfl

/-! ### Numerals -/

theorem AreGroups.splitSign {groups : List (List Char)} (areGroups : AreGroups groups) :
    Text.splitSign (['_'].intercalate groups) = (false, ['_'].intercalate groups) := by
  have parts := areGroups.isNumeralPart
  unfold Text.splitSign
  split
  · rename_i first
    exact absurd (parts '-' (first ▸ List.mem_cons_self)) (by decide)
  · rename_i first
    exact absurd (parts '+' (first ▸ List.mem_cons_self)) (by decide)
  · rfl

theorem denotes_iff {s : List Char} {n : Int} :
    Denotes s n ↔ ∃ groups, AreGroups groups ∧ (splitSign s).2 = ['_'].intercalate groups ∧
      n = if (splitSign s).1 then -(numberOf groups.flatten : Int) else numberOf groups.flatten := by
  constructor
  · intro denotes
    cases denotes with
    | @plain groups areGroups =>
      rw [areGroups.splitSign]
      exact ⟨groups, areGroups, rfl, rfl⟩
    | @positive groups areGroups => exact ⟨groups, areGroups, rfl, rfl⟩
    | @negative groups areGroups => exact ⟨groups, areGroups, rfl, rfl⟩
  · rintro ⟨groups, areGroups, digits, rfl⟩
    unfold splitSign at digits ⊢
    split at digits
    · rename_i rest
      obtain rfl : rest = _ := digits
      exact .negative areGroups
    · rename_i rest
      obtain rfl : rest = _ := digits
      exact .positive areGroups
    · obtain rfl : s = _ := digits
      exact .plain areGroups

theorem readInteger_eq_ok_iff {s : List Char} {n : Int} : readInteger s = .ok n ↔ Denotes (trimmedNumeral s) n := by
  rw [denotes_iff]
  unfold readInteger readIntegerTo
  rw [Glyph.asChars_ofText]
  dsimp only
  rw [withoutMark_ten]
  generalize splitSign (trimmedNumeral s) = signed
  constructor
  · intro read
    obtain ⟨number, ends, rfl⟩ := exists_of_map_eq_ok read
    obtain ⟨natural, counted, same⟩ := exists_of_bind_eq_ok ends
    obtain rfl : (natural : Int) = number := Except.ok.inj same
    obtain ⟨groups, areGroups, digits, rfl⟩ := readNatural_eq_ok_iff.1 counted
    exact ⟨groups, areGroups, digits, rfl⟩
  · rintro ⟨groups, areGroups, digits, rfl⟩
    rw [readNatural_eq_ok_iff.2 ⟨groups, areGroups, digits, rfl⟩]
    rfl

/-! ### Trimmed texts -/

theorem trimmed_eq_rdropWhile (s : List Char) : trimmed s = (s.dropWhile isBlank).rdropWhile isBlank := rfl

/-- A text without blanks around it has none of those that may stand around a numeral. -/
theorem trimmedNumeral_trimmed (s : List Char) : trimmedNumeral (trimmed s) = trimmed s := by
  have solid {c : Char} (visible : ¬ isBlank c = true) : ¬ isNumeralBlank c = true := by
    intro blank
    exact visible (Bool.and_eq_true_iff.1 blank).1
  have front : (trimmed s).dropWhile isNumeralBlank = trimmed s := by
    -- what is dropped behind a text leaves its first character, which is no blank
    cases starts : trimmed s with
    | nil => rfl
    | cons c rest =>
      have first : (s.dropWhile isBlank).head? = some c := by
        obtain ⟨dropped, split⟩ := List.rdropWhile_prefix isBlank (l := s.dropWhile isBlank)
        rw [← trimmed_eq_rdropWhile, starts] at split
        rw [← split]
        rfl
      have visible := List.head?_dropWhile_not isBlank s
      rw [first] at visible
      exact List.dropWhile_cons_of_neg (solid (by simpa using visible))
  have back : (trimmed s).rdropWhile isNumeralBlank = trimmed s := by
    rw [List.rdropWhile_eq_self_iff]
    intro nonempty
    exact solid (List.rdropWhile_last_not isBlank (s.dropWhile isBlank) nonempty)
  show ((trimmed s).dropWhile isNumeralBlank).rdropWhile isNumeralBlank = trimmed s
  rw [front, back]

/-- **The reader finds an integer in a text exactly where the trimmed text denotes it.** -/
theorem readInteger_trimmed_iff {s : List Char} {n : Int} :
    readInteger (trimmed s) = .ok n ↔ Denotes (trimmed s) n := by
  rw [readInteger_eq_ok_iff, trimmedNumeral_trimmed]

theorem mem_dropWhile {p : Char → Bool} {s : List Char} {c : Char} (member : c ∈ s) (kept : p c = false) :
    c ∈ s.dropWhile p := by
  rw [← List.takeWhile_append_dropWhile (p := p) (l := s), List.mem_append] at member
  refine member.resolve_left fun dropped => ?_
  rw [List.mem_takeWhile_imp dropped] at kept
  cases kept

/-- What is no blank is not trimmed away. -/
theorem mem_trimmed {s : List Char} {c : Char} (member : c ∈ s) (visible : isBlank c = false) : c ∈ trimmed s :=
  List.mem_reverse.2 (mem_dropWhile (List.mem_reverse.2 (mem_dropWhile member visible)) visible)

/-! ### Texts of other values -/

/-- **Nothing but signs, underscores and digits stands in a numeral.** -/
theorem Denotes.mem {s : List Char} {n : Int} (denotes : Denotes s n) {c : Char} (member : c ∈ s) :
    c = '+' ∨ c = '-' ∨ c = '_' ∨ (decimalDigit? c).isSome := by
  have part {groups : List (List Char)} (areGroups : AreGroups groups) (within : c ∈ ['_'].intercalate groups) :
      c = '_' ∨ (decimalDigit? c).isSome :=
    ((isNumeralPart_ten_iff c).1 (areGroups.isNumeralPart c within)).symm
  cases denotes with
  | plain areGroups => exact .inr (.inr (part areGroups member))
  | positive areGroups =>
    rcases List.mem_cons.1 member with sign | within
    · exact .inl sign
    · exact .inr (.inr (part areGroups within))
  | negative areGroups =>
    rcases List.mem_cons.1 member with sign | within
    · exact .inr (.inl sign)
    · exact .inr (.inr (part areGroups within))

/-- Some characters that stand in no numeral: a point and two letters. -/
def foreign : List Char := ['.', 'e', 'n']

theorem not_denotes_of_foreign {s : List Char} {c : Char} (member : c ∈ s) (isForeign : c ∈ foreign) (n : Int) :
    ¬ Denotes (trimmed s) n := by
  intro denotes
  have others : (foreign.all fun c =>
      !isBlank c && !(c == '+' || (c == '-' || (c == '_' || (decimalDigit? c).isSome)))) = true := by decide
  have other := List.all_eq_true.1 others c isForeign
  simp only [Bool.and_eq_true, Bool.not_eq_true', Bool.or_eq_false_iff, beq_eq_false_iff_ne] at other
  obtain ⟨visible, notPlus, notMinus, notUnderscore, noDigit⟩ := other
  rcases denotes.mem (mem_trimmed member visible) with plus | minus | underscore | digit
  · exact notPlus plus
  · exact notMinus minus
  · exact notUnderscore underscore
  · rw [digit] at noDigit
    cases noDigit

theorem exists_foreign_write (d : Decimal) : ∃ c ∈ DecimalStyle.full.write d, c ∈ foreign := by
  unfold DecimalStyle.write
  split
  · refine ⟨'.', ?_, by decide⟩
    unfold DecimalStyle.positional
    split
    · simp
    · dsimp only
      split
      · simp [DecimalStyle.full]
      · simp
  · refine ⟨'e', ?_, by decide⟩
    unfold DecimalStyle.scientific
    simp

/-- **No text of a real number is the text of an integer.** -/
theorem not_denotes_shortestText (x : Binary64) (n : Int) : ¬ Denotes (trimmed x.shortestText.toList) n := by
  obtain ⟨c, member, isForeign⟩ : ∃ c ∈ x.shortestText.toList, c ∈ foreign := by
    unfold Binary64.shortestText Binary64.writeWith
    cases x with
    | nan => exact ⟨'n', by decide, by decide⟩
    | infinite negative => exact ⟨'n', by cases negative <;> decide, by decide⟩
    | finite negative significand exponent =>
      obtain ⟨c, member, isForeign⟩ := exists_foreign_write
        (if significand = 0 then ⟨['0'], 1⟩ else Binary64.shortestDigits significand exponent)
      refine ⟨c, ?_, isForeign⟩
      dsimp only
      rw [String.toList_ofList]
      exact List.mem_append_right _ member
  exact not_denotes_of_foreign member isForeign n

end HostWatch.Text
