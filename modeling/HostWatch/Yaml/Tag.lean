/-
**The tags of YAML nodes.**

A tag says what a node stands for. It is written before the node, or the form of a plain scalar, one
without quotes, decides. In version 1.1 of the format, which is read here, `yes` and `off` are truth
values, a leading zero makes an octal integer, colons separate the digits of a number to base sixty,
underscores may stand among digits, a binary number has a point, and a date may have a time of day behind
it. A line end at the end of a scalar does not matter for its form.

* `Tag.ofName` is the tag with a written name, `Tag.ofPlain` the one that a form gives.
-/
import HostWatch.Text.Digit
import HostWatch.Text.Glyph

namespace HostWatch.Yaml

/-- What a node stands for. -/
inductive Tag where
  | null
  | bool
  | int
  | real
  | binary
  | timestamp
  | text
  | list
  /-- A list of pairs, each key once. -/
  | orderedMapping
  | pairs
  | set
  | mapping
  /-- The key whose value is to be merged into the mapping in which it stands. -/
  | merge
  /-- The key for the value of a mapping itself. -/
  | value
  /-- Something that is not known here. -/
  | other
deriving DecidableEq

/-! ### Forms of numbers -/

def isDigitOrUnderscore (c : Char) : Bool := Text.isAsciiDigit c || c == '_'

/-- What follows a sign at the start of a number. -/
def unsigned : List Char → List Char
  | '-' :: rest => rest
  | '+' :: rest => rest
  | s => s

/-- Whether a text holds something, all of one kind. -/
def isSome (p : Char → Bool) (s : List Char) : Bool := !s.isEmpty && s.all p

/-- Whether a text begins with a decimal digit other than zero and goes on with digits and underscores. -/
def isDecimal (s : List Char) : Bool :=
  s.head?.any (fun c => '1' ≤ c && c ≤ '9') && s.all isDigitOrUnderscore

/-- A digit of a number to base sixty behind a colon: one decimal digit, or two up to 59. -/
def isSixtieth : List Char → Bool
  | [c] => Text.isAsciiDigit c
  | [d, c] => '0' ≤ d && d ≤ '5' && Text.isAsciiDigit c
  | _ => false

/-- Whether a text has the form of an integer. -/
def isInteger (s : List Char) : Bool :=
  match unsigned s with
  | ['0'] => true
  | '0' :: 'b' :: rest => isSome (fun c => c == '0' || c == '1' || c == '_') rest
  | '0' :: 'x' :: rest => isSome (fun c => Text.isHexDigit c || c == '_') rest
  | '0' :: rest => isSome (fun c => ('0' ≤ c && c ≤ '7') || c == '_') rest
  | body =>
    match body.splitOn ':' with
    | [] => false
    | whole :: parts => isDecimal whole && parts.all isSixtieth

/-- An exponent of ten with its letter, a sign and at least one digit, or nothing. -/
def isExponent : List Char → Bool
  | [] => true
  | e :: sign :: digits =>
    (e == 'e' || e == 'E') && (sign == '-' || sign == '+') && isSome Text.isAsciiDigit digits
  | _ => false

/-- Whether a text has the form of a number with a point and perhaps an exponent; without a digit before
the point it has no sign. -/
def isPointed (s : List Char) : Bool :=
  let body := unsigned s
  let whole := body.takeWhile isDigitOrUnderscore
  match body.dropWhile isDigitOrUnderscore with
  | '.' :: behind =>
    let fraction := behind.takeWhile isDigitOrUnderscore
    let startsWell := match whole with
      | c :: _ => c != '_'
      | [] => body.length == s.length && fraction.head?.any (· != '_')
    startsWell && isExponent (behind.dropWhile isDigitOrUnderscore)
  | _ => false

/-- Whether a text has the form of a number to base sixty whose last part has a point. -/
def isPointedSixtieths (s : List Char) : Bool :=
  match (unsigned s).splitOn ':' with
  | whole :: part :: parts =>
    let last := (part :: parts).getLast (List.cons_ne_nil part parts)
    let middle := (part :: parts).dropLast ++ [last.takeWhile (· != '.')]
    let fraction := last.dropWhile (· != '.')
    whole.head?.any Text.isAsciiDigit && whole.all isDigitOrUnderscore && middle.all isSixtieth &&
      !fraction.isEmpty && (fraction.drop 1).all isDigitOrUnderscore
  | _ => false

/-- Whether a text has the form of a binary number. -/
def isReal (s : List Char) : Bool :=
  isPointed s || isPointedSixtieths s ||
    [".inf", ".Inf", ".INF"].contains (String.ofList (unsigned s)) ||
    [".nan", ".NaN", ".NAN"].contains (String.ofList s)

/-! ### Forms of dates and times -/

/-- The time of day behind a date. -/
structure ClockFigures where
  hour : Nat
  minute : Nat
  /-- The second. -/
  second : Nat
  /-- The microsecond. -/
  microsecond : Nat
  /-- How far the time is ahead of the universal one, in minutes, if that is said. -/
  offset? : Option Int

/-- The figures of a date or a time, whether or not there is such a day. -/
structure TimeFigures where
  year : Nat
  month : Nat
  day : Nat
  /-- The time of day, if there is one. -/
  clock? : Option ClockFigures

/-- The number that ASCII digits write. -/
def figureOf (digits : List Char) : Nat :=
  digits.foldl (fun number c => 10 * number + (c.toNat - '0'.toNat)) 0

/-- Between `least` and `most` decimal digits at the start of a text, as a number, and what follows. -/
def takeFigure? (least most : Nat) (s : List Char) : Option (Nat × List Char) :=
  let digits := (s.take most).takeWhile Text.isAsciiDigit
  if digits.length < least then none else some (figureOf digits, s.drop digits.length)

/-- What follows a sign at the start of a text. -/
def takeSign? (sign : Char) : List Char → Option (List Char)
  | c :: rest => if c == sign then some rest else none
  | [] => none

def isInnerBlank (c : Char) : Bool := c == ' ' || c == '\t'

/-- The offset from the universal time that the end of a time gives: nothing, a `Z`, or hours and perhaps
minutes behind a sign. -/
def readOffset? (s : List Char) : Option (Option Int) :=
  match s.dropWhile isInnerBlank with
  | [] => if s.isEmpty then some none else none
  | ['Z'] => some (some 0)
  | sign :: rest => do
    guard (sign == '+' || sign == '-')
    let (hours, rest) ← takeFigure? 1 2 rest
    let minutes ← match rest with
      | [] => some 0
      | ':' :: rest => (takeFigure? 2 2 rest).bind fun (minutes, rest) =>
          if rest.isEmpty then some minutes else none
      | _ => none
    let offset : Int := 60 * hours + minutes
    return some (if sign == '-' then -offset else offset)

/-- The number of microseconds that the digits behind a point make; further digits do not count. -/
def microsecondsOf (digits : List Char) : Nat :=
  let figures := digits.take 6
  figureOf figures * Nat.pow 10 (6 - figures.length)

/-- The microseconds behind a point, if there is one, and what follows. -/
def takeFraction (s : List Char) : Nat × List Char :=
  match s with
  | '.' :: rest =>
    (microsecondsOf (rest.takeWhile Text.isAsciiDigit), rest.dropWhile Text.isAsciiDigit)
  | _ => (0, s)

/-- The time of day behind a date. -/
def readClock? (s : List Char) : Option ClockFigures := do
  let behind ← match s with
    | 'T' :: rest => some rest
    | 't' :: rest => some rest
    | c :: rest => if isInnerBlank c then some (rest.dropWhile isInnerBlank) else none
    | [] => none
  let (hour, rest) ← takeFigure? 1 2 behind
  let (minute, rest) ← (takeSign? ':' rest).bind (takeFigure? 2 2)
  let (second, rest) ← (takeSign? ':' rest).bind (takeFigure? 2 2)
  let (microsecond, rest) := takeFraction rest
  return ⟨hour, minute, second, microsecond, ← readOffset? rest⟩

def readTime? (s : List Char) : Option TimeFigures := do
  let (year, rest) ← takeFigure? 4 4 s
  let (month, rest) ← (takeSign? '-' rest).bind (takeFigure? 1 2)
  let (day, rest) ← (takeSign? '-' rest).bind (takeFigure? 1 2)
  if rest.isEmpty then return ⟨year, month, day, none⟩
  return ⟨year, month, day, some (← readClock? rest)⟩

/-- Whether a text has the form of a date or a time. A date without a time of day has two digits for the
month and for the day. -/
def isTime (s : List Char) : Bool :=
  (readTime? s).any fun figures => figures.clock?.isSome || s.length == 10

/-! ### Tags -/

/-- A text without the line end at its end, if there is one. -/
def withoutLineEnd (s : List Char) : List Char := if s.getLast? = some '\n' then s.dropLast else s

namespace Tag

def words : List (Tag × List String) := [
  (null, ["", "~", "null", "Null", "NULL"]),
  (bool, ["yes", "Yes", "YES", "true", "True", "TRUE", "on", "On", "ON",
    "no", "No", "NO", "false", "False", "FALSE", "off", "Off", "OFF"]),
  (merge, ["<<"]),
  (value, ["="])]

def ofPlain (s : List Char) : Tag :=
  if s = ['\n'] then text
  else
    let form := withoutLineEnd s
    match words.find? fun entry => entry.2.contains (String.ofList form) with
    | some (tag, _) => tag
    | none =>
      if isInteger form then int
      else if isReal form then real
      else if isTime form then timestamp
      else text

/-- The tag of a plain scalar that may hold halves of surrogate pairs. -/
def ofGlyphs (glyphs : List Text.Glyph) : Tag := ((Text.Glyph.text? glyphs).map ofPlain).getD text

/-- What the names of the tags of the format begin with. -/
def formatName : String := "tag:yaml.org,2002:"

/-- The names of the tags of the format. -/
def names : List (String × Tag) := [
  ("null", null), ("bool", bool), ("int", int), ("float", real), ("binary", binary),
  ("timestamp", timestamp), ("str", text), ("seq", list), ("omap", orderedMapping),
  ("pairs", pairs), ("set", set), ("map", mapping), ("merge", merge), ("value", value)]

def ofName (name : String) : Tag :=
  ((names.find? fun entry => formatName ++ entry.1 == name).map Prod.snd).getD other

end Tag

end HostWatch.Yaml
