/-
**The 64-bit binary format, in exact arithmetic.**

A finite value is a sign with a magnitude `significand * 2 ^ exponent` in units of `2 ^ -1074`. Every
operation is computed exactly as a quotient of integers and then rounded once, to the nearest value
of the format, a tie going to the even significand, and a magnitude beyond the greatest one to an
infinity.

* `ofRatio` is this rounding; sums, products and quotients are instances of it.
* `truncate?` drops the fraction of a finite value.
* `bits` is the encoding in sixty-four bits.
-/

namespace HostWatch

/-- A value of the 64-bit binary format. -/
inductive Binary64 where
  | nan
  | infinite (negative : Bool)
  /-- The magnitude `significand * 2 ^ exponent`, in units of `2 ^ -1074`, with a sign. -/
  | finite (negative : Bool) (significand exponent : Nat)
deriving DecidableEq

namespace Binary64

/-- A quotient rounded to the nearest integer, a tie to the even one. -/
def roundHalfEven (num den : Nat) : Nat :=
  let quotient := num / den
  let twice := 2 * (num % den)
  if twice < den then quotient
  else if den < twice then quotient + 1
  else quotient + quotient % 2

def unitsInOne : Nat := Nat.pow 2 1074

/-- The greatest exponent of a finite value. -/
def maxExponent : Nat := 2045

/-- The exponent at which a magnitude of `units` whole units is rounded: the significand gets at most
fifty-three bits. -/
def exponentFor (units : Nat) : Nat :=
  if units < Nat.pow 2 53 then 0 else units.log2 - 52

/-- The value with a significand of at most `2 ^ 53`; beyond the greatest magnitude it is infinite. -/
def ofSignificand (negative : Bool) (significand exponent : Nat) : Binary64 :=
  if significand = Nat.pow 2 53 then
    if maxExponent < exponent + 1 then infinite negative else finite negative (Nat.pow 2 52) (exponent + 1)
  else if maxExponent < exponent then infinite negative
  else finite negative significand exponent

/-- The exact quotient of two natural numbers with a sign, rounded once. -/
def ofRatio (negative : Bool) (num den : Nat) : Binary64 :=
  let scaled := num * unitsInOne
  let exponent := exponentFor (scaled / den)
  ofSignificand negative (roundHalfEven scaled (den * Nat.pow 2 exponent)) exponent

/-- The zero of a sign. -/
def zero (negative : Bool) : Binary64 := finite negative 0 0

/-- The magnitude of a finite value in units. -/
def magnitude (significand exponent : Nat) : Nat := significand * Nat.pow 2 exponent

def signed (negative : Bool) (units : Nat) : Int :=
  if negative then -(units : Int) else units

/-- The nearest value to an integer, infinite for one beyond the format. -/
def ofInt (n : Int) : Binary64 := ofRatio (n < 0) n.natAbs 1

def neg : Binary64 → Binary64
  | nan => nan
  | infinite negative => infinite !negative
  | finite negative significand exponent => finite (!negative) significand exponent

/-- The rounded sum. -/
def add : Binary64 → Binary64 → Binary64
  | nan, _ => nan
  | _, nan => nan
  | infinite a, infinite b => if a = b then infinite a else nan
  | infinite a, finite .. => infinite a
  | finite .., infinite b => infinite b
  | finite a m e, finite b n f =>
    let sum := signed a (magnitude m e) + signed b (magnitude n f)
    if sum = 0 then zero (a && b) else ofRatio (sum < 0) sum.natAbs unitsInOne

/-- The rounded difference. -/
def sub (x y : Binary64) : Binary64 := add x (neg y)

/-- The rounded product. -/
def mul : Binary64 → Binary64 → Binary64
  | nan, _ => nan
  | _, nan => nan
  | infinite a, infinite b => infinite (a != b)
  | infinite a, finite b n _ => if n = 0 then nan else infinite (a != b)
  | finite a m _, infinite b => if m = 0 then nan else infinite (a != b)
  | finite a m e, finite b n f =>
    ofRatio (a != b) (magnitude m e * magnitude n f) (unitsInOne * unitsInOne)

/-- The rounded quotient; a finite value other than zero over zero is infinite. -/
def div : Binary64 → Binary64 → Binary64
  | nan, _ => nan
  | _, nan => nan
  | infinite _, infinite _ => nan
  | infinite a, finite b _ _ => infinite (a != b)
  | finite a _ _, infinite b => zero (a != b)
  | finite a m e, finite b n f =>
    if n = 0 then (if m = 0 then nan else infinite (a != b))
    else ofRatio (a != b) (magnitude m e) (magnitude n f)

/-- Whether the value is zero, of either sign. -/
def isZero : Binary64 → Bool
  | finite _ significand _ => significand = 0
  | _ => false

/-- Whether the value is below zero. -/
def isNegative : Binary64 → Bool
  | nan => false
  | infinite negative => negative
  | finite negative significand _ => negative && significand != 0

/-- The integer part of a finite value: the fraction is dropped, toward zero. -/
def truncate? : Binary64 → Option Int
  | finite negative significand exponent =>
    some (signed negative (magnitude significand exponent / unitsInOne))
  | _ => none

/-- The least number of units that is beyond the format. -/
def unitsBeyond : Nat := Nat.pow 2 2098

/-- A value in units: an infinite one lies where the finite ones end, and what is no number counts as zero. -/
def toUnits : Binary64 → Int
  | nan => 0
  | infinite negative => signed negative unitsBeyond
  | finite negative significand exponent => signed negative (magnitude significand exponent)

/-- The nearest value to a number of units. -/
def ofUnits (units : Int) : Binary64 := ofRatio (units < 0) units.natAbs unitsInOne

/-- The nearest integer to a finite value, a tie going to the even one, and zero for any other value. -/
def nearestInteger : Binary64 → Int
  | finite negative significand exponent =>
    signed negative (roundHalfEven (magnitude significand exponent) unitsInOne)
  | _ => 0

/-- The encoding in sixty-four bits: sign, exponent and fraction. -/
def bits : Binary64 → Nat
  | nan => 0x7ff8000000000000
  | infinite negative => (if negative then Nat.pow 2 63 else 0) + 2047 * Nat.pow 2 52
  | finite negative significand exponent =>
    (if negative then Nat.pow 2 63 else 0) + exponent * Nat.pow 2 52 + significand

end Binary64

end HostWatch
