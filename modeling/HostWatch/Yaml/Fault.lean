/-
**What can be wrong with a YAML document.**

A document may break the rules of the format, or it may hold a scalar that denotes nothing: an escape for
a character that does not exist, digits that make no integer, a day that no calendar has.

A document is read in portions, and a portion with a character that no document may hold is refused as a
whole. So a fault of an earlier portion counts only if nothing of such a portion had been looked at.

* `Fault.message` gives the text of every fault and `Fault.kind` its kind.
* `Fault.seenIn` is the fault that counts in a document.
-/
import HostWatch.Calendar
import HostWatch.FailureKind
import HostWatch.Number
import HostWatch.Text.Numeral

namespace HostWatch.Yaml

/-- What is wrong with a document. -/
inductive Fault where
  | malformed
  /-- An escape gives a number that belongs to no character, after so many characters had been looked at. -/
  | noCharacter (code seen : Nat)
  /-- A version is too long a number, after so many characters had been looked at. -/
  | version (fault : NumeralFault) (seen : Nat)
  /-- A scalar that should be an integer denotes none. -/
  | numeral (fault : NumeralFault)
  /-- A scalar that should be a number is the text of none. -/
  | noNumber (text : List Text.Glyph)
  /-- A scalar that should be a number holds nothing. -/
  | emptyNumber
  /-- A binary number is beyond the range of these. -/
  | arithmetic (fault : ArithmeticFault)
  /-- A scalar that should be a truth value is none of the words for them. -/
  | noTruthValue (word : List Text.Glyph)
  /-- A scalar that should be a date or a time has not the form of one. -/
  | noTime
  | timeInMapping
  /-- A scalar has the form of a date or a time but denotes none. -/
  | calendar (fault : CalendarFault)
  /-- Nodes stand inside each other too deeply, or without an end. -/
  | tooDeep

namespace Fault

/-- The numbers from here on are too large to be asked for as a character. -/
def leastUnaskable : Nat := Nat.pow 2 31

def message : Fault → String
  | malformed => "YAML parsing error"
  | noCharacter code _ =>
    if code < leastUnaskable then "chr() arg not in range(0x110000)"
    else "Python int too large to convert to C int"
  | version fault _ => fault.message
  | numeral fault => fault.message
  | noNumber text =>
    "could not convert string to float: " ++ String.ofList (Text.quotedGlyphs text)
  | emptyNumber => "string index out of range"
  | arithmetic fault => fault.message
  | noTruthValue word => String.ofList (Text.quotedGlyphs word)
  | noTime => "the text is neither a date nor a time"
  | timeInMapping => "expected string or bytes-like object, got 'list'"
  | calendar fault => fault.message
  | tooDeep => "maximum recursion depth exceeded"

def kind : Fault → FailureKind
  | malformed => .configuration
  | noCharacter code _ => if code < leastUnaskable then .wrongValue else .beyondRange
  | emptyNumber => .missingPosition
  | arithmetic _ => .beyondRange
  | noTruthValue _ => .missingKey
  | noTime => .missingPart
  | timeInMapping => .wrongKind
  | tooDeep => .reported "RecursionError"
  | _ => .wrongValue

/-! ### Portions -/

/-- The number of characters in a portion. The first time two of them are read at once. -/
def portion : Nat := 4096

/-- The number of characters that have been read when so many have been looked at. -/
def readFor (seen : Nat) : Nat := max (2 * portion) ((seen + portion - 1) / portion * portion)

/-- How many characters had been looked at when a fault was met, unless the whole document had been. -/
def seen? : Fault → Option Nat
  | noCharacter _ seen => some seen
  | version _ seen => some seen
  | _ => none

/-- The fault that counts in a document of which some characters may not be in it. -/
def seenIn (document : List Char) (isAllowed : Char → Bool) (fault : Fault) : Fault :=
  match fault.seen? with
  | some seen => if (document.take (readFor seen)).all isAllowed then fault else malformed
  | none => if document.all isAllowed then fault else malformed

end Fault

end HostWatch.Yaml
