/-
**Decimal texts of the 64-bit binary format.**

Two decimal forms of a finite value are used: the shortest digits that read back as the same value,
the nearest of those when there are several, and a fixed number of significant digits, rounded from
the exact value with ties to even. Both are laid out by a `DecimalStyle`, which says for which
exponents the point is placed among the digits and whether a whole number keeps one.

* `shortestDigits` and `Decimal.rounded` choose the digits.
* `DecimalStyle.write` lays them out.
* `read?` reads a decimal text to the nearest value, `ofText?` one with digits of any script.
-/
import HostWatch.Binary64.Basic
import HostWatch.Text.Digit
import HostWatch.Text.Numeral

namespace HostWatch

/-- Decimal digits with the place of the point: the value is `0.digits * 10 ^ point`. -/
structure Decimal where
  /-- The digits, most significant first. -/
  digits : List Char
  /-- How many digits stand before the point; negative for zeros behind it. -/
  point : Int

/-- How decimal digits are laid out. -/
structure DecimalStyle where
  /-- The least exponent of ten written without an exponent. -/
  leastPositional : Int
  /-- The exponents of ten from here on are written with an exponent. -/
  firstScientific : Int
  /-- Whether a whole number is written with a point and a zero. -/
  wholePoint : Bool

namespace Decimal

/-- The number of decimal digits of a natural number. -/
def digitCount (n : Nat) : Nat := (Nat.toDigits 10 n).length

/-- The least `k` for which the positive quotient is below `10 ^ k`. -/
def pointOf (num den : Nat) : Int :=
  if den ≤ num then digitCount (num / den) else 1 - (digitCount ((den - 1) / num) : Int)

/-- The digits of `coefficient / 10 ^ scale` without zeros at the end. -/
def ofCoefficient (coefficient : Nat) (scale : Int) : Decimal :=
  let digits := Nat.toDigits 10 coefficient
  let short := (digits.reverse.dropWhile (· == '0')).reverse
  ⟨if short.isEmpty then ['0'] else short, digits.length - scale⟩

/-- A positive quotient rounded to `count` significant digits, a tie to the even one. -/
def rounded (num den count : Nat) : Decimal :=
  let scale := count - pointOf num den
  ofCoefficient
    (Binary64.roundHalfEven (num * Nat.pow 10 scale.toNat) (den * Nat.pow 10 (-scale).toNat)) scale

end Decimal

namespace DecimalStyle

/-- The text of an exponent of ten: a sign and at least two digits. -/
def exponentText (exponent : Int) : List Char :=
  let digits := Nat.toDigits 10 exponent.natAbs
  (if exponent < 0 then '-' else '+') :: (if digits.length < 2 then '0' :: digits else digits)

/-- The text of a decimal with the point among its digits. -/
def positional (style : DecimalStyle) (d : Decimal) : List Char :=
  if d.point ≤ 0 then '0' :: '.' :: List.replicate (-d.point).toNat '0' ++ d.digits
  else
    let whole := d.point.toNat
    if d.digits.length ≤ whole then
      d.digits ++ List.replicate (whole - d.digits.length) '0' ++
        (if style.wholePoint then ['.', '0'] else [])
    else d.digits.take whole ++ '.' :: d.digits.drop whole

/-- The text of a decimal with an exponent of ten. -/
def scientific (d : Decimal) : List Char :=
  let mantissa := match d.digits with
    | first :: second :: rest => first :: '.' :: second :: rest
    | digits => digits
  mantissa ++ 'e' :: exponentText (d.point - 1)

/-- The text of a decimal in the given style. -/
def write (style : DecimalStyle) (d : Decimal) : List Char :=
  if style.leastPositional ≤ d.point - 1 && d.point - 1 < style.firstScientific then
    style.positional d
  else scientific d

/-- Values in messages: all digits that are needed, a point in every number without an exponent. -/
def full : DecimalStyle := ⟨-4, 16, true⟩

/-- Durations in reports: six digits, no point in a whole number. -/
def brief : DecimalStyle := ⟨-4, 6, false⟩

end DecimalStyle

namespace Binary64

/-- A candidate on a decimal grid lies among the magnitudes that round to the value. The bounds are
given in quarter units, and belong to them when the significand is even. -/
def readsBack (significand exponent candidate : Nat) (scale : Int) : Bool :=
  let up := Nat.pow 10 scale.toNat
  let down := Nat.pow 10 (-scale).toNat
  let low := (if significand = Nat.pow 2 52 && 0 < exponent then 4 * significand - 1
    else 4 * significand - 2) * Nat.pow 2 exponent * up
  let high := (4 * significand + 2) * Nat.pow 2 exponent * up
  let point := candidate * (4 * unitsInOne) * down
  if significand % 2 = 0 then low ≤ point && point ≤ high else low < point && point < high

/-- Of the two neighbours of the value on the grid of `count` digits, those that read back, the nearer
one first. -/
def candidateAt (significand exponent : Nat) (point : Int) (count : Nat) : Option Decimal :=
  let scale := count - point
  let num := magnitude significand exponent * Nat.pow 10 scale.toNat
  let den := unitsInOne * Nat.pow 10 (-scale).toNat
  let below := num / den
  let nearest := roundHalfEven num den
  let other := if nearest = below then below + 1 else below
  ([nearest, other].find? fun candidate => readsBack significand exponent candidate scale).map
    (Decimal.ofCoefficient · scale)

/-- The shortest digits that read back as a positive magnitude. -/
def shortestDigits (significand exponent : Nat) : Decimal :=
  let point := Decimal.pointOf (magnitude significand exponent) unitsInOne
  (((List.range 17).map (· + 1)).findSome? (candidateAt significand exponent point)).getD
    (Decimal.rounded (magnitude significand exponent) unitsInOne 17)

/-- The text of a value in a style, with the digits of a positive magnitude chosen by `choose`. -/
def writeWith (style : DecimalStyle) (choose : Nat → Nat → Decimal) : Binary64 → String
  | nan => "nan"
  | infinite negative => if negative then "-inf" else "inf"
  | finite negative significand exponent =>
    let digits := if significand = 0 then ⟨['0'], 1⟩ else choose significand exponent
    String.ofList ((if negative then ['-'] else []) ++ style.write digits)

/-- The shortest text that reads back as the value. -/
def shortestText (x : Binary64) : String :=
  writeWith .full shortestDigits x

/-- The text with six significant digits. -/
def sixDigitText (x : Binary64) : String :=
  writeWith .brief (fun m e => Decimal.rounded (magnitude m e) unitsInOne 6) x

/-- The number written by ASCII digits alone. -/
def readAsciiDigits? (s : List Char) : Option Nat :=
  if s.all Text.isAsciiDigit then
    some (s.foldl (fun number c => 10 * number + (c.toNat - '0'.toNat)) 0)
  else none

/-- The exponent of ten behind the letter `e`: an optional sign and at least one digit. -/
def readExponent? : List Char → Option Int
  | '-' :: digits => if digits.isEmpty then none else (readAsciiDigits? digits).map fun n => -(n : Int)
  | '+' :: digits => if digits.isEmpty then none else (readAsciiDigits? digits).map fun n => (n : Int)
  | digits => if digits.isEmpty then none else (readAsciiDigits? digits).map fun n => (n : Int)

/-- A power of ten with a larger exponent is infinite, and half of one with a smaller one is zero. -/
def outOfReach : Int := 400

/-- The magnitude of an unsigned decimal text with its sign. -/
def readUnsigned? (negative : Bool) (s : List Char) : Option Binary64 := do
  let isMark (c : Char) : Bool := c = 'e' || c = 'E'
  let mantissa := s.takeWhile (!isMark ·)
  let exponent ← match s.dropWhile (!isMark ·) with
    | [] => some (0 : Int)
    | _ :: rest => readExponent? rest
  let whole := mantissa.takeWhile (· != '.')
  let fraction := (mantissa.dropWhile (· != '.')).drop 1
  if whole.isEmpty && fraction.isEmpty then none
  let number ← readAsciiDigits? (whole ++ fraction)
  let scale := exponent - fraction.length
  if number = 0 ∨ scale + (whole ++ fraction).length < -outOfReach then return zero negative
  if outOfReach < scale then return infinite negative
  return ofRatio negative (number * Nat.pow 10 scale.toNat) (Nat.pow 10 (-scale).toNat)

/-- The value nearest to a decimal text; `inf` and `nan` name the values that are not finite. -/
def read? (s : List Char) : Option Binary64 :=
  let negative := s.head? = some '-'
  let body := if negative || s.head? = some '+' then s.drop 1 else s
  match String.ofList (body.map Char.toLower) with
  | "nan" => some nan
  | "inf" => some (infinite negative)
  | "infinity" => some (infinite negative)
  | _ => readUnsigned? negative body

/-- The value nearest to a decimal text with digits of any script and blanks around it. -/
def ofText? (s : List Char) : Option Binary64 :=
  read? ((Text.trimmedNumeral s).map fun c => ((Text.decimalDigit? c).map Nat.digitChar).getD c)

end Binary64

end HostWatch
