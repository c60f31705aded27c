/-
**Errors that are reported from outside.**

An error has a category and details. An error of the operating system has a number and a text as its
first details, and perhaps the files that it is about; the number decides on the category. An error in the
encoding of a text says where in the text it lies.

* `ReportedError.of` sorts the details out.
* `ReportedError.message` is the text of an error, `ReportedError.written` the form that names its
  category. Both are made when they are asked for, and fail when an integer among the details has too many
  digits.
-/
import HostWatch.ErrorDetails

namespace HostWatch

/-- An error reported from outside. -/
structure ReportedError where
  category : String
  details : List Value
  /-- The file that an error of the operating system is about, or two of them. -/
  files : List Value

namespace ReportedError

/-- The category that an error of the operating system takes from its number. -/
def systemCategories : List (Int × String) := [
  (1, "PermissionError"), (2, "FileNotFoundError"), (3, "ProcessLookupError"),
  (4, "InterruptedError"), (10, "ChildProcessError"), (11, "BlockingIOError"),
  (13, "PermissionError"), (17, "FileExistsError"), (20, "NotADirectoryError"),
  (21, "IsADirectoryError"), (32, "BrokenPipeError"), (103, "ConnectionAbortedError"),
  (104, "ConnectionResetError"), (108, "BrokenPipeError"), (110, "TimeoutError"),
  (111, "ConnectionRefusedError"), (114, "BlockingIOError"), (115, "BlockingIOError")]

/-- The category of the errors of the operating system. -/
def systemCategory : String := "OSError"

def olderSystemCategories : List String := ["EnvironmentError", "IOError"]

/-- Whether a category is one of the operating system. -/
def isSystemCategory (category : String) : Bool :=
  category = systemCategory || category = "ConnectionError" ||
    systemCategories.any fun entry => entry.2 = category

def isNumber : Value → Bool
  | .real _ => true
  | value => (ErrorDetails.integer? value).isSome

/-- The files among the details behind the number and the text: the first one, and the third one if there
is a first. For an operation that would have had to wait, a number of characters may stand in place of
the file. -/
def filesAmong (category : String) : List Value → List Value
  | [] => []
  | .null :: _ => []
  | file :: others =>
    if category = "BlockingIOError" && isNumber file then []
    else match others[1]? with
      | none => [file]
      | some Value.null => [file]
      | some other => [file, other]

/-- The error that is reported in place of one whose details do not fit. -/
def ofRefusal (refusal : ErrorDetails.Refusal) : ReportedError :=
  ⟨refusal.1, [.text refusal.2], []⟩

/-- What is wrong with the details behind the number and the text. -/
def countRefusal? (category : String) (rest : List Value) : Option ErrorDetails.Refusal :=
  if category = "BlockingIOError" then rest.head?.bind ErrorDetails.countRefusal? else none

/-- The error of the operating system with some details. -/
def ofSystem (category : String) (details : List Value) : ReportedError :=
  match details with
  | number :: text :: rest =>
    if 3 < rest.length then ⟨category, details, []⟩
    else
      let category :=
        if category = systemCategory then
          ((ErrorDetails.integer? number).bind fun n => systemCategories.lookup n).getD category
        else category
      match countRefusal? category rest, filesAmong category rest with
      | some refusal, _ => ofRefusal refusal
      | none, [] => ⟨category, details, []⟩
      | none, files => ⟨category, [number, text], files⟩
  | _ => ⟨category, details, []⟩

/-- The error with a category and details, or the one that is reported because they do not fit. -/
def of (category : String) (details : List Value) : ReportedError :=
  let category := if olderSystemCategories.contains category then systemCategory else category
  if isSystemCategory category then ofSystem category details
  else match ErrorDetails.refusal? category details with
    | some refusal => ofRefusal refusal
    | none => ⟨category, details, []⟩

/-- Whether an error is one of the operating system. -/
def isSystem (error : ReportedError) : Bool := isSystemCategory error.category

/-- Whether the error says that a part is missing. -/
def isMissingPart (error : ReportedError) : Bool := error.category = "AttributeError"

/-- Whether the error says that a number is beyond its range. -/
def isOverflow (error : ReportedError) : Bool := error.category = "OverflowError"

/-- Whether the error says that a value is wrong. -/
def isWrongValue (error : ReportedError) : Bool :=
  ["ValueError", "UnicodeError", "UnicodeDecodeError", "UnicodeEncodeError",
    "UnicodeTranslateError"].contains error.category

/-- Whether the error says that a key is missing, which it then names in quotes. -/
def isMissingKey (error : ReportedError) : Bool := error.category = "KeyError"

/-- Whether the error is about the form of a program. -/
def isSyntactic (error : ReportedError) : Bool :=
  ErrorDetails.syntacticCategories.contains error.category

/-- The text of an error in the form of a program, with the place in it behind. -/
def syntacticMessage (error : ReportedError) : Except NumeralFault String := do
  return (← (error.details.head?.getD .null).showText) ++
    ((ErrorDetails.place? error.details).map fun place => s!" ({place})").getD ""

def row (details : List Value) : Except NumeralFault String := do
  return ", ".intercalate (← details.mapM Value.showQuoted)

/-- The text of an error of any other category. -/
def plainMessage (error : ReportedError) : Except NumeralFault String := do
  match error.details with
  | [] => return ""
  | [detail] => if error.isMissingKey then detail.showQuoted else detail.showText
  | details => return "(" ++ (← row details) ++ ")"

/-- The files of an error behind its text. -/
def filesText : List Value → Except NumeralFault String
  | [] => .ok ""
  | [file] => do return ": " ++ (← file.showQuoted)
  | file :: other :: _ => do return ": " ++ (← file.showQuoted) ++ " -> " ++ (← other.showQuoted)

/-- The text of an error of the operating system. -/
def systemMessage (error : ReportedError) : Except NumeralFault String := do
  match error.details with
  | number :: text :: rest =>
    if 3 < rest.length then error.plainMessage
    else return s!"[Errno {← number.showText}] {← text.showText}" ++ (← filesText error.files)
  | _ => error.plainMessage

/-- The number of a character behind a backslash, with as many digits as it needs of two, four and eight. -/
def characterCode (n : Nat) : String :=
  String.ofList ('\\' ::
    if n < 0x100 then 'x' :: Text.hexDigits 2 n
    else if n < 0x10000 then 'u' :: Text.hexDigits 4 n
    else 'U' :: Text.hexDigits 8 n)

/-- What is shown for a character that would stand before the start of a text. -/
def noCharacterCode : Nat := 0xFFFFFFFF

/-- The place in a text from one position up to another one: a single character, which is shown by its
number, or the first and the last position. -/
def placeText (s : List Char) (from? to? : Value) : String :=
  let first := (ErrorDetails.integer? from?).getD 0
  let behind := (ErrorDetails.integer? to?).getD 0
  let code? :=
    if behind ≠ first + 1 then none
    else if first < 0 then some noCharacterCode
    else (s[first.toNat]?).map Char.toNat
  match code? with
  | some code => s!"character '{characterCode code}' in position {first}"
  | none => s!"characters in position {first}-{behind - 1}"

/-- The text of an error. The positions in the errors in the encoding of a text are ones that a machine can
hold, and so have few digits. -/
def message (error : ReportedError) : Except NumeralFault String :=
  if error.isSystem then error.systemMessage
  else if error.isSyntactic then error.syntacticMessage
  else match error.category, error.details with
    | "UnicodeEncodeError", [.text code, .text s, first, behind, .text reason] =>
      .ok (s!"'{code}' codec can't encode " ++ placeText s.toList first behind ++ ": " ++ reason)
    | "UnicodeTranslateError", [.text s, first, behind, .text reason] =>
      .ok ("can't translate " ++ placeText s.toList first behind ++ ": " ++ reason)
    | _, _ => error.plainMessage

/-- The form of an error that names its category. -/
def written (error : ReportedError) : Except NumeralFault String := do
  return error.category ++ "(" ++ (← row error.details) ++ ")"

end ReportedError

end HostWatch
