/-
**Integers read back from their decimal text.**

The decimal text of an integer is made of ASCII digits, with a minus sign before those of a negative one. Nothing
in it is a blank, an underscore or the mark of a base, so that the reader takes in all of it and computes the
number from the digits from which it was written. Only the number of digits can keep it from doing so.

* `decimalDigit?_of_isDigit`: an ASCII digit has its value.
* `readNatural_digits`: **digits are read as their number**, as long as there are not too many of them.
* `readInteger_toString`: **an integer is read back from its text exactly when it may be written**.
-/

import HostWatch.Text.Numeral
import Mathlib.Data.List.TakeWhile

namespace HostWatch.Text

/-! ### Single characters -/

theorem toNat_of_isDigit {c : Char} (digit : c.isDigit) : 48 ≤ c.toNat ∧ c.toNat ≤ 57 :=
  Char.isDigit_iff_toNat.1 digit

theorem decimalDigit?_of_isDigit {c : Char} (digit : c.isDigit) : decimalDigit? c = some (c.toNat - 48) := by
  have range := toNat_of_isDigit digit
  unfold decimalDigit? decimalZeros
  rw [List.find?_cons_of_pos (by simp; omega)]
  rfl

theorem digitTo?_of_isDigit {c : Char} (digit : c.isDigit) : digitTo? 10 c = some (c.toNat - 48) := by
  have range := toNat_of_isDigit digit
  have small : c.toNat - 48 < 10 := by omega
  unfold digitTo?
  rw [decimalDigit?_of_isDigit digit]
  simp [small]

/-- The printable characters of ASCII are no blanks, the space apart. -/
theorem isBlank_of_visible {c : Char} (visible : 33 ≤ c.toNat ∧ c.toNat < 127) : isBlank c = false := by
  unfold isBlank
  simp
  omega

/-! ### Texts without blanks -/

theorem dropWhile_eq_self_of_none {α : Type} {p : α → Bool} {s : List α} (none : ∀ c ∈ s, p c = false) :
    s.dropWhile p = s := by
  cases s with
  | nil => rfl
  | cons c rest => exact List.dropWhile_cons_of_neg (by simp [none c])

theorem trimmed_eq_self {s : List Char} (solid : ∀ c ∈ s, isBlank c = false) : trimmed s = s := by
  unfold trimmed trimmedEnd trimmedStart
  rw [dropWhile_eq_self_of_none solid, dropWhile_eq_self_of_none fun c member => solid c (List.mem_reverse.1 member),
    List.reverse_reverse]

theorem trimmedNumeral_eq_self {s : List Char} (solid : ∀ c ∈ s, isBlank c = false) : trimmedNumeral s = s := by
  have solid' : ∀ c ∈ s, isNumeralBlank c = false := fun c member => by simp [isNumeralBlank, solid c member]
  unfold trimmedNumeral
  rw [dropWhile_eq_self_of_none solid',
    dropWhile_eq_self_of_none fun c member => solid' c (List.mem_reverse.1 member), List.reverse_reverse]

/-! ### Digits -/

theorem numberTo_eq_ofDigitChars {digits : List Char} (all : ∀ c ∈ digits, c.isDigit) :
    numberTo 10 digits = Nat.ofDigitChars 10 digits 0 := by
  have from_ (number : Nat) : digits.foldl (fun number c => 10 * number + (digitTo? 10 c).getD 0) number =
      Nat.ofDigitChars 10 digits number := by
    induction digits generalizing number with
    | nil => rfl
    | cons c rest ih =>
      rw [List.foldl_cons, Nat.ofDigitChars_cons, digitTo?_of_isDigit (all c List.mem_cons_self)]
      exact ih (fun other member => all other (List.mem_cons_of_mem c member)) _
  exact from_ 0

theorem isNumeralPart_of_isDigit {c : Char} (digit : c.isDigit) : isNumeralPart 10 c = true := by
  unfold isNumeralPart
  rw [digitTo?_of_isDigit digit]
  rfl

/-- **Digits are read as their number**, as long as there are not too many of them. -/
theorem readNatural_digits (whole : List Glyph) {digits : List Char} (all : ∀ c ∈ digits, c.isDigit)
    (nonempty : digits ≠ []) :
    readNatural 10 whole digits =
      if mostDigits < digits.length then .error (.tooManyDigits digits.length)
      else .ok (Nat.ofDigitChars 10 digits 0) := by
  have parts : ∀ c ∈ digits, isNumeralPart 10 c = true := fun c member => isNumeralPart_of_isDigit (all c member)
  have plain : '_' ∉ digits := fun member => absurd (all _ member) (by decide)
  unfold readNatural
  rw [List.takeWhile_eq_self_iff.2 parts, List.dropWhile_eq_nil_iff.2 parts, List.splitOn_eq_singleton plain]
  simp [nonempty, numberTo_eq_ofDigitChars all]

/-! ### Integers -/

theorem splitSign_digits {digits : List Char} (all : ∀ c ∈ digits, c.isDigit) :
    splitSign digits = (false, digits) := by
  unfold splitSign
  split
  · exact absurd (all '-' List.mem_cons_self) (by decide)
  · exact absurd (all '+' List.mem_cons_self) (by decide)
  · rfl

theorem withoutMark_ten (s : List Char) : withoutMark 10 s = s := by
  unfold withoutMark
  split
  · exact if_neg (by simp [baseMarks])
  · rfl

theorem toList_toString (n : Int) :
    (toString n).toList = (if n < 0 then ['-'] else []) ++ Nat.toDigits 10 n.natAbs := by
  cases n with
  | ofNat m => exact Nat.toList_repr
  | negSucc m =>
    rw [if_pos (Int.negSucc_lt_zero m)]
    show ("-" ++ (m + 1).repr).toList = _
    rw [String.toList_append, Nat.toList_repr]
    rfl

theorem isDigit_of_mem_toDigits {n : Nat} : ∀ c ∈ Nat.toDigits 10 n, c.isDigit :=
  fun _ => Nat.isDigit_of_mem_toDigits (by decide) (by decide)

/-- The decimal text of an integer is made of digits and a minus sign. -/
theorem isDigit_or_minus_of_mem {n : Int} {c : Char} (member : c ∈ (toString n).toList) : c.isDigit ∨ c = '-' := by
  rw [toList_toString, List.mem_append] at member
  rcases member with sign | digit
  · split at sign
    · exact .inr (List.mem_singleton.1 sign)
    · cases sign
  · exact .inl (isDigit_of_mem_toDigits c digit)

theorem isBlank_of_mem_toString {n : Int} : ∀ c ∈ (toString n).toList, isBlank c = false := by
  intro c member
  rcases isDigit_or_minus_of_mem member with digit | rfl
  · have range := toNat_of_isDigit digit
    exact isBlank_of_visible (by omega)
  · decide

theorem splitSign_toString (n : Int) :
    splitSign (toString n).toList = (decide (n < 0), Nat.toDigits 10 n.natAbs) := by
  rw [toList_toString]
  by_cases negative : n < 0
  · rw [if_pos negative, decide_eq_true negative]
    rfl
  · rw [if_neg negative, decide_eq_false negative]
    exact splitSign_digits isDigit_of_mem_toDigits

theorem mostDigits_lt_iff (n : Int) : mostDigits < (Nat.toDigits 10 n.natAbs).length ↔ ¬ isWritable n := by
  have few : (Nat.toDigits 10 n.natAbs).length ≤ mostDigits ↔ n.natAbs < 10 ^ mostDigits :=
    Nat.length_toDigits_le_iff (by decide) (by decide)
  unfold isWritable
  rw [decide_eq_true_iff, ← Nat.not_le]
  exact not_congr few

/-- The least number with too many digits may not be written. -/
theorem not_isWritable_pow : ¬ isWritable (Nat.pow 10 mostDigits : Nat) := by
  show ¬ decide ((Nat.pow 10 mostDigits : Int).natAbs < Nat.pow 10 mostDigits) = true
  rw [Int.natAbs_natCast, decide_eq_true_iff]
  exact Nat.lt_irrefl _

/-- A smaller number has no more digits. -/
theorem isWritable_of_le {a b : Int} (nonneg : 0 ≤ a) (le : a ≤ b) (writable : isWritable b) : isWritable a := by
  have few : b.natAbs < Nat.pow 10 mostDigits := decide_eq_true_iff.1 writable
  exact decide_eq_true (Nat.lt_of_le_of_lt (by omega) few)

theorem decimal_of_isWritable {n : Int} (writable : isWritable n) : decimal n = .ok (toString n) :=
  decimal_eq_ok_iff.2 ⟨writable, rfl⟩

theorem decimal_of_not_isWritable {n : Int} (long : ¬ isWritable n) : decimal n = .error .unwritable := by
  unfold decimal
  rw [Bool.eq_false_iff.2 long, shown_false]

/-- What may stand in front of the digits of an integer. -/
def signs : List (List Char) := [[], ['+'], ['-']]

theorem splitSign_signed {sign digits : List Char} (isSign : sign ∈ signs) (all : ∀ c ∈ digits, c.isDigit) :
    splitSign (sign ++ digits) = (sign == ['-'], digits) := by
  rcases List.mem_cons.1 isSign with rfl | isSign
  · exact splitSign_digits all
  · rcases List.mem_cons.1 isSign with rfl | isSign
    · rfl
    · rw [List.mem_singleton.1 isSign]
      rfl

theorem isBlank_of_mem_signed {sign digits : List Char} (isSign : sign ∈ signs) (all : ∀ c ∈ digits, c.isDigit) :
    ∀ c ∈ sign ++ digits, isBlank c = false := by
  have visible : ∀ sign ∈ signs, (sign.all fun c => !isBlank c) = true := by decide
  refine List.forall_mem_append.2 ⟨fun c member => ?_, fun c member => ?_⟩
  · simpa using List.all_eq_true.1 (visible sign isSign) c member
  · have range := toNat_of_isDigit (all c member)
    exact isBlank_of_visible (by omega)

/-- The digits of a power of ten. -/
def powerDigits (n : Nat) : List Char := '1' :: List.replicate n '0'

theorem powerDigits_nonempty (n : Nat) : powerDigits n ≠ [] := List.cons_ne_nil _ _

theorem isDigit_powerDigits (n : Nat) : ∀ c ∈ powerDigits n, c.isDigit := by
  rintro c member
  rcases List.mem_cons.1 member with rfl | zero
  · decide
  · rw [List.eq_of_mem_replicate zero]
    decide

theorem length_powerDigits (n : Nat) : (powerDigits n).length = n + 1 := by
  rw [powerDigits, List.length_cons, List.length_replicate]

/-- **Digits with a sign are read as an integer**, as long as there are not too many of them. -/
theorem readInteger_signed {sign digits : List Char} (isSign : sign ∈ signs) (all : ∀ c ∈ digits, c.isDigit)
    (nonempty : digits ≠ []) :
    readInteger (sign ++ digits) =
      if mostDigits < digits.length then .error (.tooManyDigits digits.length)
      else .ok (if sign = ['-'] then -(Nat.ofDigitChars 10 digits 0 : Int) else Nat.ofDigitChars 10 digits 0) := by
  unfold readInteger readIntegerTo
  rw [Glyph.asChars_ofText, trimmedNumeral_eq_self (isBlank_of_mem_signed isSign all), splitSign_signed isSign all]
  dsimp only
  rw [withoutMark_ten, readNatural_digits _ all nonempty]
  by_cases many : mostDigits < digits.length
  · rw [if_pos many, if_pos many]
    rfl
  · rw [if_neg many, if_neg many]
    show Except.ok (if (sign == ['-']) = true then _ else _) = _
    simp only [beq_iff_eq]

/-- A text of digits is read as a number. -/
theorem readInteger_digits {digits : List Char} (all : ∀ c ∈ digits, c.isDigit) (nonempty : digits ≠ []) :
    readInteger digits =
      if mostDigits < digits.length then .error (.tooManyDigits digits.length)
      else .ok (Nat.ofDigitChars 10 digits 0 : Nat) := by
  have unsigned : [] ∈ signs := List.mem_cons_self
  have positive : ([] : List Char) ≠ ['-'] := nofun
  have read := readInteger_signed unsigned all nonempty
  rwa [List.nil_append, if_neg positive] at read

/-- **An integer is read back from its decimal text exactly when it may be written.** -/
theorem readInteger_toString (n : Int) :
    readInteger (trimmed (toString n).toList) =
      if isWritable n then .ok n else .error (.tooManyDigits (Nat.toDigits 10 n.natAbs).length) := by
  unfold readInteger readIntegerTo
  rw [Glyph.asChars_ofText, trimmed_eq_self isBlank_of_mem_toString,
    trimmedNumeral_eq_self isBlank_of_mem_toString, splitSign_toString]
  dsimp only
  rw [withoutMark_ten, readNatural_digits _ isDigit_of_mem_toDigits Nat.toDigits_ne_nil]
  by_cases writable : isWritable n = true
  · rw [if_neg fun many => (mostDigits_lt_iff n).1 many writable, if_pos writable, Nat.ofDigitChars_ten_toDigits]
    show Except.ok (if decide (n < 0) = true then -(n.natAbs : Int) else n.natAbs) = .ok n
    by_cases negative : n < 0
    · rw [if_pos (decide_eq_true negative)]
      exact congrArg Except.ok (by omega)
    · rw [if_neg (by simpa using negative)]
      exact congrArg Except.ok (by omega)
  · rw [if_pos ((mostDigits_lt_iff n).2 writable), if_neg writable]
    rfl

end HostWatch.Text
