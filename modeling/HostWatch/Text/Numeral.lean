/-
**Integers as text.**

An integer is read from digits to a base, with an optional sign before them, single underscores between
them and blanks around the whole. Decimal digits may be of any script, and behind the sign a zero and a
letter may mark a base that is a power of two. An integer is written in decimal, or with the sixteen
digits `0` to `f`. In decimal, integers of more than `mostDigits` digits are neither read nor written.

* `readIntegerTo` gives the integer that a text denotes to a base, or says why there is none, and
  `readInteger` does so in decimal.
* `isWritable` holds of the integers that may be written in decimal, and `decimal` writes them; `shown` is a text with
  integers in it.
* `hexadecimal` writes an integer to base sixteen, a minus sign before a negative one.
-/
import HostWatch.Text.Blank
import HostWatch.Text.Quoted

namespace HostWatch

/-- Why a text is not read as an integer, or an integer not written as a text. -/
inductive NumeralFault where
  /-- The text is no numeral to a base. -/
  | malformed (base : Nat) (text : List Text.Glyph)
  /-- The numeral has so many digits. -/
  | tooManyDigits (count : Nat)
  /-- The integer has too many digits. -/
  | unwritable
deriving DecidableEq

namespace Text

/-- The greatest number of decimal digits of an integer that is read or written. -/
def mostDigits : Nat := 4300

/-- How much of a text that is no numeral is shown. -/
def shownNumeral : Nat := 200

end Text

def NumeralFault.message : NumeralFault → String
  | malformed base text =>
    s!"invalid literal for int() with base {base}: " ++
      String.ofList ((Text.quotedGlyphs text).take Text.shownNumeral)
  | tooManyDigits count =>
    s!"Exceeds the limit ({Text.mostDigits} digits) for integer string conversion: " ++
      s!"value has {count} digits; use sys.set_int_max_str_digits() to increase the limit"
  | unwritable =>
    s!"Exceeds the limit ({Text.mostDigits} digits) for integer string conversion; " ++
      "use sys.set_int_max_str_digits() to increase the limit"

namespace Text

/-- Whether an integer may be written in decimal. -/
def isWritable (n : Int) : Bool := n.natAbs < Nat.pow 10 mostDigits

/-- A text with integers in it, given whether they may be written. -/
def shown (writable : Bool) (text : String) : Except NumeralFault String :=
  if writable then .ok text else .error .unwritable

/-- The text of an integer in decimal. -/
def decimal (n : Int) : Except NumeralFault String := shown (isWritable n) (toString n)

/-- The text of a fault in which integers are written; when they may not be, this is the fault to tell. -/
def faultText (integers : List Int) (text : String) : String :=
  if integers.all isWritable then text else NumeralFault.unwritable.message

@[simp] theorem shown_true (text : String) : shown true text = .ok text := rfl

@[simp] theorem shown_false (text : String) : shown false text = .error .unwritable := rfl

theorem shown_eq_ok_iff {writable : Bool} {text told : String} :
    shown writable text = .ok told ↔ writable = true ∧ told = text := by
  cases writable with
  | true => simp [eq_comm]
  | false => simp

theorem decimal_eq_ok_iff {n : Int} {text : String} :
    decimal n = .ok text ↔ isWritable n = true ∧ text = toString n := shown_eq_ok_iff

/-- The value of a letter as a digit, from ten on. -/
def letterDigit? (c : Char) : Option Nat :=
  if 'a' ≤ c ∧ c ≤ 'z' then some (c.toNat - 'a'.toNat + 10)
  else if 'A' ≤ c ∧ c ≤ 'Z' then some (c.toNat - 'A'.toNat + 10)
  else none

def digitTo? (base : Nat) (c : Char) : Option Nat :=
  ((decimalDigit? c).or (letterDigit? c)).filter (· < base)

/-- The number written by digits to a base, most significant first. -/
def numberTo (base : Nat) (digits : List Char) : Nat :=
  digits.foldl (fun number c => base * number + (digitTo? base c).getD 0) 0

/-- The number written by decimal digits, most significant first. -/
def numberOf (digits : List Char) : Nat := numberTo 10 digits

/-- A digit to a base, or an underscore. -/
def isNumeralPart (base : Nat) (c : Char) : Bool := (digitTo? base c).isSome || c == '_'

/-- The natural number that is the whole of a text, in which one underscore may stand between two digits.
The digits are counted before what follows them is looked at. -/
def readNatural (base : Nat) (whole : List Glyph) (s : List Char) : Except NumeralFault Nat :=
  let groups := (s.takeWhile (isNumeralPart base)).splitOn '_'
  let digits := groups.flatten
  if groups.any List.isEmpty then .error (.malformed base whole)
  else if base = 10 ∧ mostDigits < digits.length then .error (.tooManyDigits digits.length)
  else if (s.dropWhile (isNumeralPart base)).isEmpty then .ok (numberTo base digits)
  else .error (.malformed base whole)

/-- The letters that mark a base behind a zero. -/
def baseMarks : Nat → List Char
  | 2 => ['b', 'B']
  | 8 => ['o', 'O']
  | 16 => ['x', 'X']
  | _ => []

/-- A numeral without the mark of its base. -/
def withoutMark (base : Nat) : List Char → List Char
  | '0' :: mark :: rest => if (baseMarks base).contains mark then rest else '0' :: mark :: rest
  | s => s

/-- The sign of a number, true for a minus, and what follows it. -/
def splitSign : List Char → Bool × List Char
  | '-' :: rest => (true, rest)
  | '+' :: rest => (false, rest)
  | s => (false, s)

/-- The blanks that may stand around a numeral: all but the ASCII separators. -/
def isNumeralBlank (c : Char) : Bool := isBlank c && !(28 ≤ c.toNat && c.toNat ≤ 31)

/-- A numeral without the blanks around it. -/
def trimmedNumeral (s : List Char) : List Char :=
  ((s.dropWhile isNumeralBlank).reverse.dropWhile isNumeralBlank).reverse

/-- The integer that a text denotes to a base, blanks around it ignored. -/
def readIntegerTo (base : Nat) (text : List Glyph) : Except NumeralFault Int :=
  let (negative, digits) := splitSign (trimmedNumeral (Glyph.asChars text))
  (readNatural base text (withoutMark base digits)).map fun number =>
    if negative then -(number : Int) else number

/-- The integer that a text denotes in decimal, blanks around it ignored. -/
def readInteger (s : List Char) : Except NumeralFault Int := readIntegerTo 10 (Glyph.ofText s)

/-- The text of an integer to base sixteen. -/
def hexadecimal (n : Int) : String :=
  (if n < 0 then "-" else "") ++ String.ofList (Nat.toDigits 16 n.natAbs)

end Text

end HostWatch
