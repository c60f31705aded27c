/-
**The scalars of a YAML document.**

A tag says what the text of a scalar denotes. A scalar with the form of its tag can denote nothing all the
same: digits may be missing, or the day may not exist. A tag that is written out may stand before a text
of any form; then more texts denote numbers than by their forms.

* `Scalar.read` is the value that a text with a tag denotes.
-/
import HostWatch.Text.Base64
import HostWatch.Text.LowerCase
import HostWatch.Value
import HostWatch.Yaml.Fault
import HostWatch.Yaml.Tag

namespace HostWatch.Yaml.Scalar

open HostWatch.Text (Glyph)

/-! ### Numbers -/

def withoutUnderscores (s : List Glyph) : List Glyph := s.filter (· != .char '_')

/-- Whether a number is negative, and what follows its sign. A number holds something. -/
def splitSign : List Glyph → Except Fault (Bool × List Glyph)
  | [] => .error .emptyNumber
  | .char '-' :: rest => .ok (true, rest)
  | .char '+' :: rest => .ok (false, rest)
  | s => .ok (false, s)

/-- The integer that a text denotes to a base. -/
def readTo (base : Nat) (s : List Glyph) : Except Fault Int :=
  (Text.readIntegerTo base s).mapError .numeral

/-- The integer that a text without its sign denotes. A zero alone or before a letter gives the base, and
colons separate digits to base sixty, each of which is written in decimal. -/
def readMagnitude (s : List Glyph) : Except Fault Int :=
  match s with
  | [] => .error .emptyNumber
  | [.char '0'] => .ok 0
  | .char '0' :: .char 'b' :: rest => readTo 2 rest
  | .char '0' :: .char 'x' :: rest => readTo 16 rest
  | .char '0' :: _ => readTo 8 s
  | _ => do
    let digits ← (s.splitOn (.char ':')).mapM (readTo 10)
    return digits.foldl (fun number digit => 60 * number + digit) 0

def readInteger (s : List Glyph) : Except Fault Int := do
  let (negative, body) ← splitSign (withoutUnderscores s)
  let number ← readMagnitude body
  return if negative then -number else number

/-- The binary number that a text denotes in decimal. -/
def readDecimal (s : List Glyph) : Except Fault Binary64 :=
  match Binary64.ofText? (Glyph.asChars s) with
  | some x => .ok x
  | none => .error (.noNumber s)

/-- The sum of digits to base sixty, the last one first. -/
def sumOfSixtieths (sum : Binary64) (unit : Nat) : List Binary64 → Except Fault Binary64
  | [] => .ok sum
  | digit :: rest => do
    let factor ← (Binary64.ofInteger unit).mapError .arithmetic
    sumOfSixtieths (sum.add (digit.mul factor)) (60 * unit) rest

/-- The sign of a binary number and what follows it, in lower case and without underscores. -/
def realParts (s : List Glyph) : Except Fault (Bool × List Glyph) :=
  splitSign (Text.lower (withoutUnderscores s))

/-- The word for what is not a number. -/
def nanWord : List Glyph := Glyph.ofText ".nan".toList

/-- Whether a text is the word for what is not a number, behind any sign. -/
def isNanWord (s : List Glyph) : Bool :=
  match realParts s with
  | .ok (_, body) => body == nanWord
  | .error _ => false

/-- The binary number that a text denotes. -/
def readReal (s : List Glyph) : Except Fault Binary64 := do
  let (negative, body) ← realParts s
  if body == nanWord then return .nan
  let x ←
    if body == Glyph.ofText ".inf".toList then pure (.infinite false)
    else if body.contains (.char ':') then do
      let digits ← (body.splitOn (.char ':')).mapM readDecimal
      sumOfSixtieths (Binary64.zero false) 1 digits.reverse
    else readDecimal body
  return if negative then x.neg else x

/-! ### Other scalars -/

def truthWords : List (String × Bool) :=
  [("yes", true), ("no", false), ("true", true), ("false", false), ("on", true), ("off", false)]

/-- The truth value with a word, in letters of any case. -/
def readTruth (s : List Glyph) : Except Fault Bool :=
  let word := Text.lower s
  match truthWords.find? fun entry => Glyph.ofText entry.1.toList == word with
  | some (_, b) => .ok b
  | none => .error (.noTruthValue word)

/-- The date or the time with some figures. -/
def timeOf (figures : TimeFigures) : Except CalendarFault Value :=
  match figures.clock? with
  | none => (CalendarDate.of figures.year figures.month figures.day).map .date
  | some clock =>
    (CalendarTime.of clock.offset? figures.year figures.month figures.day
      clock.hour clock.minute clock.second clock.microsecond).map .time

/-- The date or the time that a text denotes. -/
def readTime (s : List Glyph) : Except Fault Value :=
  match (Glyph.text? s).bind fun chars => readTime? (withoutLineEnd chars) with
  | some figures => (timeOf figures).mapError .calendar
  | none => .error .noTime

/-- The bytes that a text of ASCII characters writes. -/
def readBytes (s : List Glyph) : Except Fault (List UInt8) :=
  match (Glyph.text? s).bind fun chars =>
      if chars.all fun c => c.toNat < 128 then Text.Base64.decode? chars else none with
  | some bytes => .ok bytes
  | none => .error .malformed

/-- The value that a text with a tag denotes. -/
def read (tag : Tag) (s : List Glyph) : Except Fault Value :=
  match tag with
  | .null => .ok .null
  | .bool => (readTruth s).map .bool
  | .int => (readInteger s).map .int
  | .real => (readReal s).map .real
  | .binary => (readBytes s).map .bytes
  | .timestamp => readTime s
  | .text => .ok (.ofGlyphs s)
  | _ => .error .malformed

end HostWatch.Yaml.Scalar
