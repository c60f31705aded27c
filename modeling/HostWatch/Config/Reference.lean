/-
**References to environment variables.**

A text may refer to variables of the environment: `${NAME}` stands for the value of a variable, and
`${NAME:-DEFAULT}` for the value or, when the variable is not set, for the text up to the next closing
brace. What is put in is not scanned again, and what looks like a reference but is none stays as it is.

* `readReference?` reads the reference behind an opening `${`.
* `substitute` puts in the values, and refuses a reference to a variable that is not set and has no
  default.
-/
import HostWatch.Config.Fault

namespace HostWatch.Config

/-- The values of the variables that are set. -/
abbrev Environment := String → Option String

/-- The variables given by a list of names and values. -/
def Environment.ofList (entries : List (String × String)) : Environment :=
  fun name => entries.reverse.lookup name

/-- The letters, ASCII only, and the underscore. -/
def isNameStart (c : Char) : Bool :=
  ('a' ≤ c && c ≤ 'z') || ('A' ≤ c && c ≤ 'Z') || c == '_'

/-- The characters behind the first one of a name: letters, ASCII digits and the underscore. -/
def isNameCharacter (c : Char) : Bool :=
  isNameStart c || ('0' ≤ c && c ≤ '9')

/-- Whether a glyph is a character of a kind. -/
def isCharacter (p : Char → Bool) (glyph : Text.Glyph) : Bool := glyph.char?.any p

/-- A reference to a variable. -/
structure Reference where
  name : String
  /-- The text that stands for a variable that is not set. -/
  fallback : Option (List Text.Glyph)

def openingBrace : Text.Glyph := .char '\x7b'

def closingBrace : Text.Glyph := .char '\x7d'

theorem length_dropWhile_le {α : Type} (p : α → Bool) (s : List α) :
    (s.dropWhile p).length ≤ s.length :=
  (List.dropWhile_suffix p).sublist.length_le

/-- The end of a reference behind its name, a closing brace or a default and a closing brace, and what
follows it. -/
def readEnd? (name : String) : List Text.Glyph → Option (Reference × List Text.Glyph)
  | .char ':' :: .char '-' :: rest =>
    match rest.dropWhile (· != closingBrace) with
    | _ :: tail => some (⟨name, some (rest.takeWhile (· != closingBrace))⟩, tail)
    | [] => none
  | glyph :: tail => if glyph = closingBrace then some (⟨name, none⟩, tail) else none
  | [] => none

theorem length_lt_of_readEnd? {name : String} {s tail : List Text.Glyph} {reference : Reference}
    (read : readEnd? name s = some (reference, tail)) : tail.length < s.length := by
  unfold readEnd? at read
  split at read
  · rename_i rest
    have inner := length_dropWhile_le (· != closingBrace) rest
    split at read
    · rename_i after
      rw [after] at inner
      simp only [List.length_cons] at inner ⊢
      cases read
      omega
    · cases read
  · split at read
    · cases read
      exact Nat.lt_succ_self _
    · cases read
  · cases read

/-- The reference whose text, behind the opening `${`, begins the given one, and what follows it. -/
def readReference? (s : List Text.Glyph) : Option (Reference × List Text.Glyph) :=
  if s.head?.any (isCharacter isNameStart) then
    let name := Text.Glyph.asChars (s.takeWhile (isCharacter isNameCharacter))
    readEnd? (String.ofList name) (s.dropWhile (isCharacter isNameCharacter))
  else none

/-- What follows a reference is shorter than the text that it was read from. -/
theorem length_lt_of_readReference? {s tail : List Text.Glyph} {reference : Reference}
    (read : readReference? s = some (reference, tail)) : tail.length < s.length := by
  unfold readReference? at read
  split at read
  · exact Nat.lt_of_lt_of_le (length_lt_of_readEnd? read) (length_dropWhile_le ..)
  · cases read

/-- The text that stands for a reference. -/
def Reference.resolve (environment : Environment) (reference : Reference) :
    Except Fault (List Text.Glyph) :=
  match environment reference.name, reference.fallback with
  | some value, _ => .ok (Text.Glyph.ofText value.toList)
  | none, some fallback => .ok fallback
  | none, none => .error (.unsetVariable reference.name)

/-- The text with the references replaced, from the first to the last. -/
def substituteGlyphs (environment : Environment) (s : List Text.Glyph) :
    Except Fault (List Text.Glyph) :=
  match s with
  | [] => .ok []
  | glyph :: rest =>
    if glyph = .char '$' ∧ rest.head? = some openingBrace then
      match read : readReference? rest.tail with
      | some (reference, tail) => do
        have := length_lt_of_readReference? read
        have : rest.tail.length ≤ rest.length := by simp
        let value ← reference.resolve environment
        let others ← substituteGlyphs environment tail
        return value ++ others
      | none => do
        let others ← substituteGlyphs environment rest
        return glyph :: others
    else do
      let others ← substituteGlyphs environment rest
      return glyph :: others
termination_by s.length
decreasing_by all_goals simp only [List.length_cons]; omega

/-- A value with the references in it replaced, when it is a text. -/
def substitute (environment : Environment) : Value → Except Fault Value
  | .text s => (substituteGlyphs environment (Text.Glyph.ofText s.toList)).map .ofGlyphs
  | .halves glyphs => (substituteGlyphs environment glyphs).map .ofGlyphs
  | value => .ok value

end HostWatch.Config
