/-
**Files of named sizes.**

Each line gives a name, perhaps with a colon, and a value behind blanks. A value is an integer, in bytes
or, with the unit `kB` in letters of any case, in units of 1024 bytes. Of two lines with one name the last
one counts.

* `Properties.parse` reads the lines.
* `bytes`, `bytesOrZero` and `bytes?` look up a size and differ in what they say when it is missing.
-/
import HostWatch.Failure
import HostWatch.KeyedList
import HostWatch.Text.Blank
import HostWatch.Text.LetterCase

namespace HostWatch

/-- The values of a file by their names. -/
abbrev Properties := List (String × List Char)

namespace Properties

/-- The name and the value on a line that is not blank. -/
def readLine? (line : List Char) : Option (String × List Char) :=
  let trimmed := Text.trimmed line
  match (Text.words trimmed).head? with
  | none => none
  | some name =>
    let bare := (name.reverse.dropWhile (· == ':')).reverse
    some (String.ofList bare, Text.trimmed (trimmed.drop name.length))

def parse (text : List Char) : Properties :=
  ((Text.lines text).filterMap readLine?).foldl
    (fun all (name, value) => KeyedList.set name value all) []

/-- The unit of 1024 bytes. -/
def unit : String := "kb"

def readBytes (value : List Char) : Except Failure Int :=
  if Text.endsIgnoringCase value unit then do
    let n ← readInteger (Text.trimmed (value.take (value.length - 2)))
    return 1024 * n
  else readInteger value

/-- The names in the order of their characters. -/
def sortedNames (properties : Properties) : List String :=
  (properties.map Prod.fst).mergeSort (· ≤ ·)

/-- The size with a name, when there is one. -/
def bytes? (properties : Properties) (name : String) : Except Failure (Option Int) :=
  match properties.lookup name with
  | none => .ok none
  | some value => (readBytes value).map some

/-- The size with a name, zero when there is none. -/
def bytesOrZero (properties : Properties) (name : String) : Except Failure Int := do
  return (← properties.bytes? name).getD 0

/-- The size with a name, which has to be there. -/
def bytes (properties : Properties) (name : String) : Except Failure Int := do
  match ← properties.bytes? name with
  | some n => return n
  | none => throw (.missingProperty name properties.sortedNames)

end Properties

end HostWatch
