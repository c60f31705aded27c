/-
**Texts with places for values.**

A place begins with a percent sign. It may name the key of its value in parentheses, then says how the
value is written: with marks, a width and a precision, for both of which a star stands for the next
value. It ends with the letter of the form of the value: as text, quoted, as a character, as an integer to
base ten, sixteen or eight, or as a number with decimal places. Two percent signs next to each other stand
for one.

Values come in a row and are taken in their order, each has to find its place; or there is a single value,
which may be one in which keys are looked up.

* `Template.pieces` reads a text, `Template.fill` puts values into its places.
-/
import HostWatch.Binary64.Places
import HostWatch.Number
import HostWatch.Value

namespace HostWatch

/-- What can be wrong with a template and its values. -/
inductive TemplateFault where
  | tooFewValues
  | tooManyValues
  | incomplete
  | incompleteKey
  /-- There is nothing in which a key can be looked up. -/
  | notAMapping
  | keyOfList
  /-- There is no value with a key. -/
  | missingKey (key : Value)
  /-- A place ends with a character, at a position, that is not the letter of a form. -/
  | unknownForm (letter : Char) (position : Nat)
  /-- A value has no integer, which the form with this letter asks for. -/
  | notAnInteger (letter : Char) (kind : String)
  /-- A value is no number. -/
  | notANumber (kind : String)
  /-- A value is no character. -/
  | notACharacter
  /-- There is no character with a number. -/
  | unknownCharacter
  /-- The value for a star is no integer. -/
  | starNotAnInteger
  /-- The value for a star is beyond the machine integers with this name. -/
  | starBeyond (machine : String)
  | widthTooBig
  | precisionTooBig
  | tooManyDigits
  /-- Something that should be a row of values cannot be counted. -/
  | uncountable (kind : String)
  /-- A width is within bounds, but there is no memory for a text of that width. -/
  | noMemory
  /-- A number has no integer part, or is beyond the binary format. -/
  | arithmetic (fault : ArithmeticFault)

namespace TemplateFault

def message : TemplateFault → String
  | tooFewValues => "not enough arguments for format string"
  | tooManyValues => "not all arguments converted during string formatting"
  | incomplete => "incomplete format"
  | incompleteKey => "incomplete format key"
  | notAMapping => "format requires a mapping"
  | keyOfList => "list indices must be integers or slices, not str"
  | missingKey key => key.quoted
  | unknownForm letter position =>
    let shown := if 31 ≤ letter.toNat ∧ letter.toNat < 127 then letter else '?'
    let code := String.ofList (Nat.toDigits 16 letter.toNat)
    s!"unsupported format character '{shown}' (0x{code}) at index {position}"
  | notAnInteger letter kind =>
    let number := if "diu".contains letter then "a real number" else "an integer"
    s!"%{letter} format: {number} is required, not {kind}"
  | notANumber kind => s!"must be real number, not {kind}"
  | notACharacter => "%c requires int or char"
  | unknownCharacter => "%c arg not in range(0x110000)"
  | starNotAnInteger => "* wants int"
  | starBeyond machine => s!"Python int too large to convert to C {machine}"
  | widthTooBig => "width too big"
  | precisionTooBig => "precision too big"
  | tooManyDigits => "precision too large"
  | uncountable kind => s!"object of type '{kind}' has no len()"
  | noMemory => ""
  | arithmetic fault => fault.message

end TemplateFault

def TemplateFault.kind : TemplateFault → FailureKind
  | incomplete | incompleteKey | unknownForm .. | widthTooBig | precisionTooBig => .wrongValue
  | missingKey _ => .missingKey
  | unknownCharacter | starBeyond _ | tooManyDigits => .beyondRange
  | noMemory => .reported "MemoryError"
  | arithmetic fault => fault.kind
  | _ => .wrongKind

/-! ### Reading -/

/-- The key of a place. -/
inductive PlaceKey where
  /-- There is none. -/
  | absent
  | named (key : List Char)
  | unclosed

/-- A width or a precision. -/
inductive PlaceSize where
  | given (n : Nat)
  | star

/-- A place for a value. -/
structure Place where
  key : PlaceKey
  /-- The marks: alternate form, zeros in front, flush left, a blank or a plus for a missing sign. -/
  marks : List Char
  /-- The least number of characters. -/
  width? : Option PlaceSize
  /-- The greatest number of characters of a text, the least number of digits of an integer, or the number
  of decimal places. -/
  precision? : Option PlaceSize
  /-- The letter of the form, nothing where the text ends before it. -/
  letter? : Option Char
  position : Nat

/-- A piece of a template. -/
inductive Piece where
  | literal (c : Char)
  | place (place : Place)

namespace Place

def isMark (c : Char) : Bool := "#0- +".contains c

/-- Whether a character stands for the size of a number, which does not matter. -/
def isSize (c : Char) : Bool := "hlL".contains c

/-- The number that ASCII digits write, zero for none. -/
def numberOf (digits : List Char) : Nat :=
  digits.foldl (fun number c => 10 * number + (c.toNat - '0'.toNat)) 0

/-- The number of characters before the parenthesis that closes so many open ones. -/
def beforeClosing? (depth : Nat) : List Char → Option Nat
  | [] => none
  | c :: rest =>
    if c = ')' then
      if depth ≤ 1 then some 0 else (beforeClosing? (depth - 1) rest).map (· + 1)
    else (beforeClosing? (if c = '(' then depth + 1 else depth) rest).map (· + 1)

/-- The key at the start of a text, and how many characters it takes with its parentheses. -/
def readKey : List Char → PlaceKey × Nat
  | '(' :: rest =>
    match beforeClosing? 1 rest with
    | some count => (.named (rest.take count), count + 2)
    | none => (.unclosed, rest.length + 1)
  | _ => (.absent, 0)

/-- The width or precision at the start of a text, and how many characters it takes. -/
def readSize (s : List Char) : Option PlaceSize × Nat :=
  if s.head? = some '*' then (some .star, 1)
  else
    let digits := s.takeWhile Text.isAsciiDigit
    (if digits.isEmpty then none else some (.given (numberOf digits)), digits.length)

/-- The precision at the start of a text, behind a point, and how many characters it takes. A point alone
stands for a precision of zero. -/
def readPrecision : List Char → Option PlaceSize × Nat
  | '.' :: rest =>
    let (size?, count) := readSize rest
    (some (size?.getD (.given 0)), count + 1)
  | _ => (none, 0)

/-- The place behind a percent sign at a position, and how many characters it takes. -/
def read (position : Nat) (s : List Char) : Place × Nat :=
  let (key, keyCount) := readKey s
  let marks := (s.drop keyCount).takeWhile isMark
  let beforeWidth := keyCount + marks.length
  let (width?, widthCount) := readSize (s.drop beforeWidth)
  let beforePrecision := beforeWidth + widthCount
  let (precision?, precisionCount) := readPrecision (s.drop beforePrecision)
  let beforeLetter := beforePrecision + precisionCount
  let count := if (s[beforeLetter]?).any isSize then beforeLetter + 1 else beforeLetter
  (⟨key, marks, width?, precision?, s[count]?, position + 1 + count⟩, count + 1)

end Place

namespace Template

/-- The pieces of a text that begins at a position. -/
def pieces (position : Nat) (s : List Char) : List Piece :=
  match s with
  | [] => []
  | '%' :: '%' :: rest => .literal '%' :: pieces (position + 2) rest
  | '%' :: rest =>
    let (place, count) := Place.read position rest
    .place place :: pieces (position + 1 + count) (rest.drop count)
  | c :: rest => .literal c :: pieces (position + 1) rest
termination_by s.length
decreasing_by all_goals simp only [List.length_cons, List.length_drop]; omega

end Template

/-! ### Values -/

/-- The values for a template. -/
inductive TemplateValues where
  | row (values : List Value)
  | single (value : Value)

/-- The values that are still to find their places. -/
structure Supply where
  source? : Option Value
  waiting : List Value
  /-- Whether some value has been too long to be written. -/
  isOverlong : Bool

/-- The supply of some values. Keys are looked up in a single mapping; a single list is not to be used up
either. -/
def TemplateValues.supply : TemplateValues → Supply
  | row values => ⟨none, values, false⟩
  | single (.list items) => ⟨some (.list items), [.list items], false⟩
  | single (.mapping entries) => ⟨some (.mapping entries), [.mapping entries], false⟩
  | single value => ⟨none, [value], false⟩

/-- A computation that takes values from a supply. -/
abbrev Filling := StateT Supply (Except TemplateFault)

namespace Filling

def next : Filling Value := do
  match (← get).waiting with
  | [] => throw .tooFewValues
  | value :: rest =>
    modify fun supply => { supply with waiting := rest }
    return value

/-- Looks the key of a place up; its value is the only one that comes next. -/
def lookUp (key : PlaceKey) : Filling Unit := do
  match key, (← get).source? with
  | .absent, _ => return
  | _, none => throw .notAMapping
  | .unclosed, _ => throw .incompleteKey
  | .named key, some (.mapping entries) =>
    let key := Value.text (String.ofList key)
    match entries.find? fun entry => entry.1.sameKey key with
    | none => throw (.missingKey key)
    | some (_, value) => modify fun supply => { supply with waiting := [value] }
  | .named _, _ => throw .keyOfList

/-- The next value as an integer for a star, within the machine integers with this name. -/
def star (machine : String) (bound : Int) : Filling Int := do
  let n ← match ← next with
    | .int n => pure n
    | .bool b => pure (if b then 1 else 0)
    | _ => throw .starNotAnInteger
  if n < -bound ∨ bound ≤ n then throw (.starBeyond machine)
  return n

/-- The least width that is too big. -/
def widthBound : Int := Nat.pow 2 63

/-- The least precision that is too big. -/
def precisionBound : Int := Nat.pow 2 31

/-- The width of a place, negative for one that is flush left. -/
def width : Option PlaceSize → Filling Int
  | none => return 0
  | some (.given n) => if widthBound ≤ n then throw .widthTooBig else return n
  | some .star => star "ssize_t" widthBound

def precision : Option PlaceSize → Filling (Option Nat)
  | none => return none
  | some (.given n) => if precisionBound ≤ n then throw .precisionTooBig else return some n
  | some .star => do return some (← star "int" precisionBound).toNat

end Filling

/-! ### Writing -/

/-- How a value is written. -/
structure Layout where
  marks : List Char
  /-- The least number of characters. -/
  width : Nat
  precision? : Option Nat
  letter : Char

namespace Layout

def pad (layout : Layout) (isNumber : Bool) (front body : List Char) : List Char :=
  let missing := layout.width - (front.length + body.length)
  if layout.marks.contains '-' then front ++ body ++ List.replicate missing ' '
  else if isNumber && layout.marks.contains '0' then front ++ List.replicate missing '0' ++ body
  else List.replicate missing ' ' ++ front ++ body

def writeText (layout : Layout) (s : String) : List Char :=
  layout.pad false [] ((layout.precision?.map fun count => s.toList.take count).getD s.toList)

/-- What stands for the sign of a number. -/
def sign (layout : Layout) (negative : Bool) : List Char :=
  if negative then ['-']
  else if layout.marks.contains '+' then ['+']
  else if layout.marks.contains ' ' then [' ']
  else []

def writeInteger (layout : Layout) (base : Nat) (n : Int) : List Char :=
  let digits := Nat.toDigits base n.natAbs
  let digits := if layout.letter = 'X' then digits.map Char.toUpper else digits
  let mark := if layout.marks.contains '#' && base ≠ 10 then ['0', layout.letter] else []
  layout.pad true (layout.sign (n < 0) ++ mark)
    (List.replicate (layout.precision?.getD 0 - digits.length) '0' ++ digits)

/-- The number of decimal places where none is given. -/
def usualPlaces : Nat := 6

def writeReal (layout : Layout) (x : Binary64) : List Char :=
  let places := layout.precision?.getD usualPlaces
  let keepsPoint := layout.marks.contains '#'
  let text := x.writtenBy <| match layout.letter.toLower with
    | 'e' => Binary64.scientificText places keepsPoint
    | 'f' => Binary64.fixedText places keepsPoint
    | _ => Binary64.generalText places keepsPoint
  let text := if layout.letter.isUpper then text.map Char.toUpper else text
  let negative := text.head? = some '-'
  layout.pad true (layout.sign negative) (if negative then text.drop 1 else text)

/-- The characters of a text, those beyond ASCII by their code points. -/
def asciiOnly (s : String) : String :=
  String.ofList <| s.toList.flatMap fun c =>
    if c.toNat < 128 then [c]
    else if c.toNat < 256 then '\\' :: 'x' :: Text.hexDigits 2 c.toNat
    else if c.toNat < 65536 then '\\' :: 'u' :: Text.hexDigits 4 c.toNat
    else '\\' :: 'U' :: Text.hexDigits 8 c.toNat

def isIntegral (layout : Layout) : Bool := "diuxXo".contains layout.letter

/-- The number of characters that a layout asks for at least. -/
def leastLength (layout : Layout) : Nat :=
  if layout.isIntegral || "eEfFgG".contains layout.letter then
    max layout.width (layout.precision?.getD 0)
  else layout.width

/-- The least precision of an integer that is too big. -/
def digitsBound : Nat := Nat.pow 2 31 - 3

/-- Whether a layout asks for more digits of an integer than there may be. -/
def asksTooMuch (layout : Layout) : Bool :=
  layout.isIntegral && digitsBound ≤ layout.precision?.getD 0

end Layout

namespace Template

/-- The integer in a value; of a number that is not whole, the integer part, where the form allows it. -/
def integerOf (letter : Char) (value : Value) (truncates : Bool) : Except TemplateFault Int :=
  match value with
  | .int n => .ok n
  | .bool b => .ok (if b then 1 else 0)
  | .real x =>
    if truncates then x.truncate.mapError .arithmetic
    else .error (.notAnInteger letter value.kindWord)
  | _ => .error (.notAnInteger letter value.kindWord)

def realOf : Value → Except TemplateFault Binary64
  | .int n => (Binary64.ofInteger n).mapError .arithmetic
  | .bool b => .ok (Binary64.ofInt (if b then 1 else 0))
  | .real x => .ok x
  | value => .error (.notANumber value.kindWord)

def characterAt (n : Int) : Except TemplateFault Char :=
  if n < 0 ∨ 0x110000 ≤ n then .error .unknownCharacter else .ok (Char.ofNat n.toNat)

def characterOf : Value → Except TemplateFault Char
  | .int n => characterAt n
  | .bool b => characterAt (if b then 1 else 0)
  | .text s =>
    match s.toList with
    | [c] => .ok c
    | _ => .error .notACharacter
  | _ => .error .notACharacter

/-- A value in a layout, whose letter is at a position. -/
def writeForm (layout : Layout) (position : Nat) (value : Value) : Except TemplateFault (List Char) :=
  let integer (base : Nat) (truncates : Bool) : Except TemplateFault (List Char) :=
    (integerOf layout.letter value truncates).map (layout.writeInteger base)
  match layout.letter with
  | 's' => .ok (layout.writeText value.toText)
  | 'r' => .ok (layout.writeText value.quoted)
  | 'a' => .ok (layout.writeText (Layout.asciiOnly value.quoted))
  | 'c' => (characterOf value).map fun c => layout.pad false [] [c]
  | 'd' | 'i' | 'u' => integer 10 true
  | 'x' | 'X' => integer 16 false
  | 'o' => integer 8 false
  | 'e' | 'E' | 'f' | 'F' | 'g' | 'G' => (realOf value).map layout.writeReal
  | letter => .error (.unknownForm letter position)

/-- The width or number of digits from which on a value is not written. -/
def lengthBound : Nat := Nat.pow 10 8

/-- The width or number of digits for which there is no memory at all. -/
def memoryBound : Nat := Nat.pow 10 10

/-- A value in a layout, whose letter is at a position. One that is overlong is written as nothing. -/
def write (layout : Layout) (position : Nat) (value : Value) : Filling (List Char) := do
  if layout.leastLength < lengthBound then
    match writeForm layout position value with
    | .ok written => return written
    | .error fault => throw fault
  else
    match writeForm { layout with width := 0, precision? := none } position value with
    | .ok _ =>
      if layout.asksTooMuch then throw .tooManyDigits
      if memoryBound ≤ layout.leastLength then throw .noMemory
      modify fun supply => { supply with isOverlong := true }
      return []
    | .error fault => throw fault

def writePiece : Piece → Filling (List Char)
  | .literal c => return [c]
  | .place place => do
    Filling.lookUp place.key
    let width ← Filling.width place.width?
    let precision? ← Filling.precision place.precision?
    match place.letter? with
    | none => throw .incomplete
    | some letter =>
      let marks := if width < 0 then '-' :: place.marks else place.marks
      write ⟨marks, width.natAbs, precision?, letter⟩ place.position (← Filling.next)

/-- The text with the values in its places. -/
def fill (template : String) (values : TemplateValues) : Except TemplateFault String := do
  let (written, supply) ← ((pieces 0 template.toList).mapM writePiece).run values.supply
  if supply.source?.isNone && !supply.waiting.isEmpty then throw .tooManyValues
  if supply.isOverlong then throw .noMemory
  return String.ofList written.flatten

end Template

end HostWatch
