/-
**Quoted texts.**

A quoted text stands between two quotes of one kind: apostrophes, or double quotes when the text
holds an apostrophe and no double quote. The backslash and the quote in use are written behind a
backslash, the line feed, the carriage return and the tabulator as `\n`, `\r` and `\t`, and other
characters that are not printable by their number, with as many digits as they need of two, four and
eight.
-/
import HostWatch.Text.Digit
import HostWatch.Text.Glyph
import HostWatch.Text.Printable

namespace HostWatch.Text

/-- The written form of one character between the given quotes. -/
def escapeIn (quote : Char) (c : Char) : List Char :=
  if c = '\\' || c = quote then ['\\', c]
  else if c = '\n' then ['\\', 'n']
  else if c = '\r' then ['\\', 'r']
  else if c = '\t' then ['\\', 't']
  else if isPrintable c then [c]
  else if c.toNat < 0x100 then '\\' :: 'x' :: hexDigits 2 c.toNat
  else if c.toNat < 0x10000 then '\\' :: 'u' :: hexDigits 4 c.toNat
  else '\\' :: 'U' :: hexDigits 8 c.toNat

/-- The apostrophe, the quote of most texts. -/
def apostrophe : Char := '\x27'

def doubleQuote : Char := '\x22'

/-- The quote that a text is written with. -/
def quoteFor (s : List Char) : Char :=
  if s.contains apostrophe && !s.contains doubleQuote then doubleQuote else apostrophe

def quotedChars (s : List Char) : List Char :=
  let quote := quoteFor s
  quote :: s.flatMap (escapeIn quote) ++ [quote]

def quoted (s : String) : String :=
  String.ofList (quotedChars s.toList)

/-- The quoted form of glyphs, of which a half of a surrogate pair is not printable. -/
def quotedGlyphs (glyphs : List Glyph) : List Char :=
  let quote := quoteFor (Glyph.asChars glyphs)
  let written : Glyph → List Char
    | .char c => escapeIn quote c
    | .half code => '\\' :: 'u' :: hexDigits 4 code
  quote :: glyphs.flatMap written ++ [quote]

theorem quotedGlyphs_ofText (s : List Char) : quotedGlyphs (Glyph.ofText s) = quotedChars s := by
  simp only [quotedGlyphs, quotedChars, Glyph.asChars_ofText]
  simp only [Glyph.ofText, List.flatMap_map]

/-- The quoted form of bytes: a letter, and the form of the characters with their numbers, of which none
beyond ASCII is printable. -/
def quotedBytes (bytes : List UInt8) : List Char :=
  let quote := quoteFor (bytes.map fun byte => Char.ofNat byte.toNat)
  let written (byte : UInt8) : List Char :=
    if byte < 128 then escapeIn quote (Char.ofNat byte.toNat)
    else '\\' :: 'x' :: hexDigits 2 byte.toNat
  'b' :: quote :: bytes.flatMap written ++ [quote]

end HostWatch.Text
