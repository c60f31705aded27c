/-
**White space, words and lines of a text.**

A text is read as a list of characters. This module fixes which characters are blank, which end a
line, and the four ways a text is cut:

* `trimmed` drops the blanks around a text, `trimmedEnd` only those behind it;
* `words` are the longest runs without a blank;
* `lines` are the stretches between line ends, where a carriage return followed by a line feed is one
  end, and an end behind the last line opens no further line;
* `unifyLineEnds` writes each line end of the three keyboard conventions as a line feed.
-/

namespace HostWatch.Text

/-- The blanks: the ASCII white space and separators, and the Unicode spaces and separators. -/
def isBlank (c : Char) : Bool :=
  let n := c.toNat
  (9 ≤ n && n ≤ 13) || (28 ≤ n && n ≤ 32) || n == 0x85 || n == 0xA0 || n == 0x1680 ||
    (0x2000 ≤ n && n ≤ 0x200A) || n == 0x2028 || n == 0x2029 || n == 0x202F || n == 0x205F ||
    n == 0x3000

def isLineEnd (c : Char) : Bool :=
  let n := c.toNat
  (10 ≤ n && n ≤ 13) || (28 ≤ n && n ≤ 30) || n == 0x85 || n == 0x2028 || n == 0x2029

/-- The text without the blanks before it. -/
def trimmedStart (s : List Char) : List Char :=
  s.dropWhile isBlank

/-- The text without the blanks behind it. -/
def trimmedEnd (s : List Char) : List Char :=
  (s.reverse.dropWhile isBlank).reverse

/-- The text without the blanks around it. -/
def trimmed (s : List Char) : List Char :=
  trimmedEnd (trimmedStart s)

/-- The longest runs without a blank, in order. -/
def words (s : List Char) : List (List Char) :=
  (s.splitOnP isBlank).filter fun word => !word.isEmpty

/-- The lines of a text, when `current` holds the characters of the open line, last one first. -/
def linesFrom (current : List Char) : List Char → List (List Char)
  | [] => if current.isEmpty then [] else [current.reverse]
  | '\r' :: '\n' :: rest => current.reverse :: linesFrom [] rest
  | c :: rest =>
    if isLineEnd c then current.reverse :: linesFrom [] rest else linesFrom (c :: current) rest

/-- The lines of a text, without their ends. -/
def lines (s : List Char) : List (List Char) :=
  linesFrom [] s

/-- The text with each carriage return, alone or before a line feed, written as a line feed. -/
def unifyLineEnds : List Char → List Char
  | [] => []
  | '\r' :: '\n' :: rest => '\n' :: unifyLineEnds rest
  | c :: rest => (if c = '\r' then '\n' else c) :: unifyLineEnds rest

/-- The text without the blanks around it, on strings. -/
def trim (s : String) : String :=
  String.ofList (trimmed s.toList)

/-- The text without the blanks behind it, on strings. -/
def trimEnd (s : String) : String :=
  String.ofList (trimmedEnd s.toList)

end HostWatch.Text
