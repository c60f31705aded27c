/-
**Binary numbers with a given number of decimal places.**

A value is written with so many digits behind the point, with one digit before the point and so many
behind it and an exponent of ten, or in the shorter of these two forms with so many significant digits
and without zeros at the end. The digits are those of the exact value, a tie rounded to the even digit. A
value that is not finite is written as a word.

* `fixedText`, `scientificText` and `generalText` are the three forms of a magnitude.
-/
import HostWatch.Binary64.Decimal

namespace HostWatch.Binary64

/-- Digits before and behind the point, which stands also before no digits if it is kept. -/
def pointed (keepsPoint : Bool) (whole fraction : List Char) : List Char :=
  whole ++ if fraction.isEmpty && !keepsPoint then [] else '.' :: fraction

/-- No unit has more decimal places: behind them there are zeros. -/
def exactPlaces : Nat := 1074

/-- A number of units with so many digits behind the point. -/
def fixedText (places : Nat) (keepsPoint : Bool) (units : Nat) : List Char :=
  let exact := min places exactPlaces
  let digits := Nat.toDigits 10 (roundHalfEven (units * Nat.pow 10 exact) unitsInOne)
  let padded := List.replicate (exact + 1 - digits.length) '0' ++ digits
  pointed keepsPoint (padded.take (padded.length - exact))
    (padded.drop (padded.length - exact) ++ List.replicate (places - exact) '0')

/-- No value has more digits before the point than this number exceeds `exactPlaces` by, so none has more
significant digits. -/
def exactDigits : Nat := 1400

/-- So many significant digits of a number of units, and the exponent of ten of the first one. -/
def significantDigits (count units : Nat) : List Char × Int :=
  if units = 0 then (List.replicate count '0', 0)
  else
    let exact := min count exactDigits
    let scale := exact - Decimal.pointOf units unitsInOne
    let digits := Nat.toDigits 10
      (roundHalfEven (units * Nat.pow 10 scale.toNat) (unitsInOne * Nat.pow 10 (-scale).toNat))
    (digits.take exact ++ List.replicate (count - exact) '0', digits.length - scale - 1)

/-- A number of units with one digit before the point, so many behind it, and an exponent of ten. -/
def scientificText (places : Nat) (keepsPoint : Bool) (units : Nat) : List Char :=
  let (digits, exponent) := significantDigits (places + 1) units
  pointed keepsPoint (digits.take 1) (digits.drop 1) ++ 'e' :: DecimalStyle.exponentText exponent

/-- A number of units in the form that suits its size: up to so many significant digits, zeros at the end
only if the point is kept. -/
def generalText (digits : Nat) (keepsPoint : Bool) (units : Nat) : List Char :=
  let count := max digits 1
  let (significant, exponent) := significantDigits count units
  let shorten (fraction : List Char) : List Char :=
    if keepsPoint then fraction else (fraction.reverse.dropWhile (· == '0')).reverse
  if -4 ≤ exponent ∧ exponent < count then
    let text := fixedText (count - 1 - exponent).toNat false units
    pointed keepsPoint (text.takeWhile (· ≠ '.')) (shorten ((text.dropWhile (· ≠ '.')).drop 1))
  else
    pointed keepsPoint (significant.take 1) (shorten (significant.drop 1)) ++
      'e' :: DecimalStyle.exponentText exponent

/-- A value whose magnitude is written in some form. -/
def writtenBy (form : Nat → List Char) : Binary64 → List Char
  | nan => ['n', 'a', 'n']
  | infinite negative => (if negative then ['-'] else []) ++ ['i', 'n', 'f']
  | finite negative significand exponent =>
    (if negative then ['-'] else []) ++ form (magnitude significand exponent)

end HostWatch.Binary64
