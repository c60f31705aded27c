/-
**Texts that are not made of characters alone.**

A text can be written with halves of surrogate pairs that stand alone. Half of a pair is no character;
so such a text is a list of glyphs, each a character or a half.

* `Glyph.ofCode?` gives the glyph with a number, `Glyph.ofText` the glyphs of a text of characters.
* `Glyph.text?` gives the text of glyphs that are characters.
-/

namespace HostWatch.Text

/-- A character, or half of a surrogate pair that stands alone. -/
inductive Glyph where
  | char (c : Char)
  | half (code : Nat)
deriving DecidableEq

namespace Glyph

/-- Whether a number belongs to half of a surrogate pair. -/
def isHalf (code : Nat) : Bool := 0xD800 ≤ code && code ≤ 0xDFFF

def ofCode? (code : Nat) : Option Glyph :=
  if 0x110000 ≤ code then none
  else some (if isHalf code then half code else char (Char.ofNat code))

/-- The glyphs of a text of characters. -/
def ofText (s : List Char) : List Glyph := s.map char

def char? : Glyph → Option Char
  | char c => some c
  | half _ => none

/-- The text that glyphs make if they are characters. -/
def text? (glyphs : List Glyph) : Option (List Char) := glyphs.mapM char?

/-- What is read for a glyph where characters are asked for: a half counts as a question mark, which is
neither a blank nor a letter nor a digit. -/
def asChar : Glyph → Char
  | char c => c
  | half _ => '?'

/-- The characters that are read for glyphs. -/
def asChars (glyphs : List Glyph) : List Char := glyphs.map asChar

theorem text?_ofText (s : List Char) : text? (ofText s) = some s := by
  induction s with
  | nil => rfl
  | cons c rest ih =>
    rw [text?, ofText, List.map_cons, List.mapM_cons, char?]
    rw [text?, ofText] at ih
    simp [ih]

theorem asChars_ofText (s : List Char) : asChars (ofText s) = s := by
  simp [asChars, ofText, asChar, Function.comp_def]

end Glyph

end HostWatch.Text
