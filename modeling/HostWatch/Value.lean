/-
**Values of configuration documents.**

A value is empty, a scalar, a list, a set or a mapping; an encryption may also be given by its constant.
The same values are the arguments of an error that the host reports and of a log event. Messages show a
value in one of two forms: `Value.quoted`, in which a text is quoted, and `Value.toText`, in which a text
stands for itself. A list or a mapping may stand inside itself; there it is not shown once more.

* `Value.isWritable` says whether a value may be shown at all: an integer in it may be too long for that.
  `Value.showQuoted` and `Value.showText` show it, if so, in the one form or the other.
* `Value.isTrue` says whether a value counts as true: it is neither empty nor zero.
-/
import HostWatch.Binary64.Decimal
import HostWatch.Calendar
import HostWatch.Config.Encryption
import HostWatch.SlotOrder
import HostWatch.Text.Numeral

namespace HostWatch

/-- A value of a configuration document. -/
inductive Value where
  | null
  | bool (b : Bool)
  /-- An integer of any size. -/
  | int (n : Int)
  | real (x : Binary64)
  | text (s : String)
  /-- A text with halves of surrogate pairs among its characters. -/
  | halves (glyphs : List Text.Glyph)
  | bytes (bytes : List UInt8)
  | date (date : CalendarDate)
  | time (time : CalendarTime)
  /-- Two values, the second one under the first one. -/
  | pair (key value : Value)
  | list (items : List Value)
  /-- The list inside of which it stands. -/
  | outerList
  /-- A set of values, its members in the order in which they are shown. -/
  | set (members : List Value)
  /-- A mapping, its entries in the order in which the keys first occurred. -/
  | mapping (entries : List (Value × Value))
  /-- The mapping inside of which it stands. -/
  | outerMapping
  | encryption (e : Encryption)

namespace Value

def ofGlyphs (glyphs : List Text.Glyph) : Value :=
  match Text.Glyph.text? glyphs with
  | some s => text (String.ofList s)
  | none => halves glyphs

mutual

/-- The form of a value in which texts are quoted. -/
def quoted : Value → String
  | null => "None"
  | bool b => if b then "True" else "False"
  | int n => toString n
  | real x => x.shortestText
  | text s => Text.quoted s
  | halves glyphs => String.ofList (Text.quotedGlyphs glyphs)
  | bytes b => String.ofList (Text.quotedBytes b)
  | date d => d.call
  | time t => t.call
  | pair key value => "(" ++ quoted key ++ ", " ++ quoted value ++ ")"
  | list items => "[" ++ ", ".intercalate (quotedItems items) ++ "]"
  | outerList => "[...]"
  | set [] => "set()"
  | set (member :: rest) =>
    "\x7b" ++ ", ".intercalate (quoted member :: quotedItems rest) ++ "\x7d"
  | mapping entries => "\x7b" ++ ", ".intercalate (quotedEntries entries) ++ "\x7d"
  | outerMapping => "\x7b...\x7d"
  | encryption e => "<Encryption." ++ e.constant ++ ": " ++ Text.quoted e.word ++ ">"

/-- The quoted forms of the items of a list. -/
def quotedItems : List Value → List String
  | [] => []
  | item :: rest => quoted item :: quotedItems rest

/-- The quoted forms of the entries of a mapping. -/
def quotedEntries : List (Value × Value) → List String
  | [] => []
  | (key, value) :: rest => (quoted key ++ ": " ++ quoted value) :: quotedEntries rest

end

mutual

/-- Whether the integers in a value are short enough to be shown. -/
def isWritable : Value → Bool
  | int n => Text.isWritable n
  | pair key value => isWritable key && isWritable value
  | list items => areWritable items
  | set members => areWritable members
  | mapping entries => entriesAreWritable entries
  | _ => true

/-- Whether all items of a list may be shown. -/
def areWritable : List Value → Bool
  | [] => true
  | item :: rest => isWritable item && areWritable rest

/-- Whether all entries of a mapping may be shown. -/
def entriesAreWritable : List (Value × Value) → Bool
  | [] => true
  | (key, value) :: rest => isWritable key && isWritable value && entriesAreWritable rest

end

def isTrue : Value → Bool
  | null => false
  | bool b => b
  | int n => n ≠ 0
  | real x => !x.isZero
  | text s => s ≠ ""
  | bytes b => !b.isEmpty
  | list items => !items.isEmpty
  | set members => !members.isEmpty
  | mapping entries => !entries.isEmpty
  | _ => true

/-- A value that counts as true, or else the empty text. -/
def orEmpty (value : Value) : Value := if value.isTrue then value else .text ""

/-- The form of a value in which a text stands for itself, apart from one that cannot be written so. -/
def toText : Value → String
  | text s => s
  | date d => d.toText
  | time t => t.toText
  | encryption e => "Encryption." ++ e.constant
  | value => value.quoted

/-- Shows a value in the form in which texts are quoted. -/
def showQuoted (value : Value) : Except NumeralFault String := Text.shown value.isWritable value.quoted

/-- Shows a value in the form in which a text stands for itself. -/
def showText (value : Value) : Except NumeralFault String := Text.shown value.isWritable value.toText

/-- The integer that a value counts as among keys: truth values and whole numbers are integers. -/
def keyInteger? : Value → Option Int
  | bool b => some (if b then 1 else 0)
  | int n => some n
  | real x => x.truncate?.filter fun n => Binary64.ofInt n == x || x.isZero
  | _ => none

/-- Whether two scalars are one key of a mapping. -/
def sameKey (a b : Value) : Bool :=
  match a, b with
  | null, null => true
  | text s, text t => s == t
  | halves s, halves t => s == t
  | bytes a, bytes b => a == b
  | date d, date e => d == e
  | time t, time u => t.isSameAs u
  | encryption e, encryption f => e == f
  | real x, real y => if x.isZero then y.isZero else x == y && x != .nan
  | a, b => a.keyInteger?.isSome && a.keyInteger? == b.keyInteger?

/-- The entries of a mapping with one more entry: a key that is already there keeps its place and
gets the new value. -/
def insertEntry (same : Value → Value → Bool) (key value : Value) :
    List (Value × Value) → List (Value × Value)
  | [] => [(key, value)]
  | (k, v) :: rest =>
    if same k key then (k, value) :: rest else (k, v) :: insertEntry same key value rest

/-- The mapping that a list of entries makes, read from the first to the last, when it is known which keys
are the same. -/
def entriesBy (same : Value → Value → Bool) (entries : List (Value × Value)) :
    List (Value × Value) :=
  entries.foldl (fun all entry => insertEntry same entry.1 entry.2 all) []

/-- The mapping that a list of entries makes, read from the first to the last. -/
def entriesOf (entries : List (Value × Value)) : List (Value × Value) := entriesBy sameKey entries

/-! ### Sets -/

/-- The prime number that the numbers of members of a set are taken by. -/
def memberPrime : Nat := Nat.pow 2 61 - 1

/-- The number of a member of a set that is so far from zero. The number next to minus one means that
there is none, and its neighbour stands for it. -/
def memberNumber (negative : Bool) (magnitude : Nat) : Int :=
  let number : Int := magnitude % memberPrime
  if !negative then number else if number = 1 then -2 else -number

/-- The number of a member of a set, if it is the same for every set: numbers and empty texts have one. -/
def memberNumber? : Value → Option Int
  | bool b => some (if b then 1 else 0)
  | int n => some (memberNumber (n < 0) n.natAbs)
  | real (.infinite negative) => some (if negative then -314159 else 314159)
  | real (.finite negative significand exponent) =>
    some (memberNumber negative (significand * Nat.pow 2 ((exponent + 24) % 61)))
  | text "" | bytes [] => some 0
  | _ => none

/-- The set with some members. Where one of them has no number, all stay in their order. -/
def setOf (members : List Value) : Value :=
  set (match members.mapM fun member => member.memberNumber?.map (·, member) with
    | some numbered => slotOrder numbered
    | none => members)

/-! ### Kinds -/

def kindWord : Value → String
  | null => "NoneType"
  | bool _ => "bool"
  | int _ => "int"
  | real _ => "float"
  | text _ | halves _ => "str"
  | bytes _ => "bytes"
  | date _ => "datetime.date"
  | time _ => "datetime.datetime"
  | pair .. => "tuple"
  | list _ | outerList => "list"
  | set _ => "set"
  | mapping _ | outerMapping => "dict"
  | encryption _ => "Encryption"

end Value

end HostWatch
