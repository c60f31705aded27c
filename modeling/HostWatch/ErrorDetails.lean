/-
**The details that errors need.**

Most errors take any details. An error in the encoding of a text takes the text, two positions in it and a
reason, an error in the form of a program may take the place in the program, and a group of errors takes a
text and the errors. Details that do not fit make another error instead of the one that is meant.

* `ErrorDetails.refusal?` is that other error, as a category and a text.
* `ErrorDetails.place?` reads the place in a program.
-/
import HostWatch.Value

namespace HostWatch.ErrorDetails

/-- A category of errors and the text of an error. -/
abbrev Refusal := String × String

/-- The refusal of a value of a wrong kind. -/
def wrongKind (text : String) : Refusal := ("TypeError", text)

def wrongValue (text : String) : Refusal := ("ValueError", text)

/-- The refusal of a value that should be an integer. -/
def notAnInteger (value : Value) : Refusal :=
  wrongKind s!"'{value.kindWord}' object cannot be interpreted as an integer"

/-- The integer in a value, for which a truth value may stand. -/
def integer? : Value → Option Int
  | .int n => some n
  | .bool b => some (if b then 1 else 0)
  | _ => none

/-- Whether an integer is a position that a machine can hold. -/
def isPosition (n : Int) : Bool := -(Nat.pow 2 63 : Int) ≤ n && n < Nat.pow 2 63

/-! ### Errors in the encoding of a text -/

/-- What a detail has to be. -/
inductive Kind where
  | text
  | position
  | other

/-- The details that an error in the encoding of a text takes. -/
def encodingKinds : List (String × List Kind) := [
  ("UnicodeEncodeError", [.text, .text, .position, .position, .text]),
  ("UnicodeDecodeError", [.text, .other, .position, .position, .text]),
  ("UnicodeTranslateError", [.text, .position, .position, .text])]

/-- How the kind of a value that is no text is named. -/
def kindName : Value → String
  | .null => "None"
  | value => value.kindWord

/-- What is wrong with a detail, the first one having the number one. -/
def detailRefusal? (kind : Kind) (number : Nat) (value : Value) : Option Refusal :=
  match kind, value with
  | .other, _ => none
  | .text, .text _ => none
  | .text, _ => some (wrongKind s!"argument {number} must be str, not {kindName value}")
  | .position, _ =>
    match integer? value with
    | none => some (notAnInteger value)
    | some n =>
      if isPosition n then none
      else some ("OverflowError", "Python int too large to convert to C ssize_t")

/-- What is wrong with details of some kinds. -/
def kindsRefusal? (kinds : List Kind) (details : List Value) : Option Refusal :=
  if details.length = kinds.length then
    ((kinds.zip details).zipIdx 1).findSome? fun ((kind, value), number) =>
      detailRefusal? kind number value
  else some (wrongKind s!"function takes exactly {kinds.length} arguments ({details.length} given)")

/-- What is wrong with the details of an error in the encoding of a text. Bytes are no values here, so an
error that needs them is always refused. -/
def encodingRefusal? (category : String) (kinds : List Kind) (details : List Value) :
    Option Refusal :=
  (kindsRefusal? kinds details).or <|
    if category = "UnicodeDecodeError" then
      (details[1]?).map fun value =>
        wrongKind s!"a bytes-like object is required, not '{value.kindWord}'"
    else none

/-! ### Errors in the form of a program -/

/-- The categories of errors in the form of a program. -/
def syntacticCategories : List String := ["SyntaxError", "IndentationError", "TabError"]

/-- The parts of a value that has parts. -/
def parts? : Value → Option (List Value)
  | .list items => some items
  | .text s => some (s.toList.map fun c => .text c.toString)
  | .mapping entries => some (entries.map Prod.fst)
  | _ => none

/-- What is wrong with a place in a program. -/
def placeRefusal? (place : Value) : Option Refusal :=
  match parts? place with
  | none => some (wrongKind s!"'{place.kindWord}' object is not iterable")
  | some parts =>
    let count := parts.length
    if count < 4 then some (wrongKind s!"function takes at least 4 arguments ({count} given)")
    else if 6 < count then some (wrongKind s!"function takes at most 6 arguments ({count} given)")
    else if count = 5 then
      some (wrongKind "end_offset must be provided when end_lineno is provided")
    else none

/-- A line of a program as it is shown. -/
def lineText (line : Int) : String := s!"line {if isPosition line then line else -1}"

/-- The text of a place in a program, from its file and its line, if it has one of them. -/
def place? (details : List Value) : Option String :=
  match details with
  | [_, place] =>
    match parts? place with
    | some (.text file :: .int line :: _) => some s!"{fileName file}, {lineText line}"
    | some (.text file :: _) => some (fileName file)
    | some (_ :: .int line :: _) => some (lineText line)
    | _ => none
  | _ => none
where
  /-- The last part of the name of a file. -/
  fileName (file : String) : String :=
    String.ofList ((file.toList.splitOn '/').getLast?.getD [])

/-! ### Groups of errors -/

/-- The categories of groups of errors. -/
def groupCategories : List String := ["ExceptionGroup", "BaseExceptionGroup"]

/-- What is wrong with the details of a group. Errors are no values here, so a group is always refused. -/
def groupRefusal (details : List Value) : Refusal :=
  let call := "BaseExceptionGroup.__new__()"
  let ofCount (count : Nat) : Refusal :=
    if count = 0 then wrongValue "second argument (exceptions) must be a non-empty sequence"
    else wrongValue "Item 0 of second argument (exceptions) is not an exception"
  match details with
  | [.text _, .list items] => ofCount items.length
  | [.text _, .text s] => ofCount s.length
  | [.text _, _] => wrongKind "second argument (exceptions) must be a sequence"
  | [value, _] => wrongKind s!"{call} argument 1 must be str, not {kindName value}"
  | details => wrongKind s!"{call} takes exactly 2 arguments ({details.length} given)"

/-! ### All errors -/

/-- What is wrong with a number of characters. -/
def countRefusal? (value : Value) : Option Refusal :=
  match value, integer? value with
  | _, some n =>
    if isPosition n then none
    else some (wrongValue s!"cannot fit '{value.kindWord}' into an index-sized integer")
  | .real _, none => some (notAnInteger value)
  | _, none => none

/-- What is wrong with the details of an error of a category. -/
def refusal? (category : String) (details : List Value) : Option Refusal :=
  match encodingKinds.lookup category with
  | some kinds => encodingRefusal? category kinds details
  | none =>
    if groupCategories.contains category then some (groupRefusal details)
    else if syntacticCategories.contains category then
      match details with
      | [_, place] => placeRefusal? place
      | _ => none
    else none

end HostWatch.ErrorDetails
