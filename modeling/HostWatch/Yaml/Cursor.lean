/-
**Places in a YAML document.**

A cursor is what is left of a document, with the number of characters before it, the line and the column.
Blanks are spaces, comments and line ends; a tabulator is blank only inside a quoted scalar. A mark of
three dashes or three points at the start of a line begins or ends a document.

* `Cursor.forward` moves over some characters, `Cursor.skipped` over blanks, and `Cursor.leaveLine?` to the
  start of the next line.
* `lineEnds` collects the line ends that a scalar runs over, and `foldBreaks` says what they count as.
-/

namespace HostWatch.Yaml

/-! ### Characters -/

/-- The characters that end a line of a document. -/
def isBreak (c : Char) : Bool :=
  c == '\n' || c == '\u0085' || c == '\u2028' || c == '\u2029'

/-- A character that ends a word: a space, a tabulator or a line end. -/
def isWordEnd (c : Char) : Bool :=
  c == ' ' || c == '\t' || isBreak c

/-- Whether a word ends before the given text. -/
def endsWord : List Char → Bool
  | [] => true
  | c :: _ => isWordEnd c

/-- The characters that a document may hold. -/
def isDocumentCharacter (c : Char) : Bool :=
  let n := c.toNat
  n == 9 || n == 10 || n == 13 || (0x20 ≤ n && n ≤ 0x7E) || n == 0x85 ||
    (0xA0 ≤ n && n ≤ 0xFFFD) || 0x10000 ≤ n

/-- The mark of the order of bytes, which takes no column. -/
def byteOrderMark : Char := '\uFEFF'

/-! ### Cursors -/

/-- A place in a document. -/
structure Cursor where
  rest : List Char
  /-- The number of characters before the place. -/
  index : Nat
  line : Nat
  /-- The number of columns before the place on its line. -/
  column : Nat

namespace Cursor

/-- The place at the start of a document, behind a mark of the order of bytes. -/
def start (document : List Char) : Cursor :=
  match document with
  | c :: rest => if c == byteOrderMark then ⟨rest, 1, 0, 0⟩ else ⟨document, 0, 0, 0⟩
  | [] => ⟨[], 0, 0, 0⟩

/-- The place behind the next character. -/
def next (cursor : Cursor) : Cursor :=
  match cursor.rest with
  | [] => cursor
  | c :: rest =>
    if isBreak c then ⟨rest, cursor.index + 1, cursor.line + 1, 0⟩
    else
      let columns := if c == byteOrderMark then 0 else 1
      ⟨rest, cursor.index + 1, cursor.line, cursor.column + columns⟩

/-- The place behind some characters. -/
def forward (cursor : Cursor) : Nat → Cursor
  | 0 => cursor
  | count + 1 => forward cursor.next count

def atEnd (cursor : Cursor) : Bool := cursor.rest.isEmpty

/-- Whether the next character ends a line. -/
def atBreak (cursor : Cursor) : Bool := cursor.rest.head?.any isBreak

/-- Whether the next character is a given one. -/
def atCharacter (cursor : Cursor) (c : Char) : Bool := cursor.rest.head? == some c

/-- Whether a line begins with the given mark of a document. -/
def atMark (cursor : Cursor) (mark : String) : Bool :=
  cursor.column == 0 && mark.toList.isPrefixOf cursor.rest && endsWord (cursor.rest.drop 3)

/-- Whether a document begins or ends here. -/
def atDocumentMark (cursor : Cursor) : Bool :=
  cursor.atMark "---" || cursor.atMark "..."

/-- The characters from here on as long as they satisfy a condition, and the place behind them. -/
def taking (cursor : Cursor) (p : Char → Bool) : List Char × Cursor :=
  let taken := cursor.rest.takeWhile p
  (taken, cursor.forward taken.length)

/-- The place behind the spaces that stand here. -/
def skipSpaces (cursor : Cursor) : Cursor := (cursor.taking (· == ' ')).2

end Cursor

/-! ### Blanks -/

/-- The number of blank characters at the start of a text: spaces, line ends and comments. -/
def blankCount (inComment : Bool) : List Char → Nat
  | [] => 0
  | c :: rest =>
    if isBreak c then blankCount false rest + 1
    else if inComment || c == '#' then blankCount true rest + 1
    else if c == ' ' then blankCount false rest + 1
    else 0

/-- The first place that is not blank. -/
def Cursor.skipped (cursor : Cursor) : Cursor := cursor.forward (blankCount false cursor.rest)

/-- The start of the next line, if what is left of this one is blank. -/
def Cursor.leaveLine? (cursor : Cursor) : Option Cursor :=
  let next := cursor.skipSpaces
  let next := if next.atCharacter '#' then (next.taking (!isBreak ·)).2 else next
  if next.atEnd || next.atBreak then some next.next else none

/-! ### Line ends in scalars -/

/-- A line end inside a scalar, in the form in which it counts there. -/
def breakCharacter (c : Char) : Char :=
  if c == '\u0085' then '\n' else c

/-- The line ends at the start of a text, blanks between them dropped, and the number of characters that
they and the blanks take. -/
def lineEnds (withTabs : Bool) : List Char → List Char × Nat
  | [] => ([], 0)
  | c :: rest =>
    if isBreak c then
      let (breaks, count) := lineEnds withTabs rest
      (breakCharacter c :: breaks, count + 1)
    else if c == ' ' || (withTabs && c == '\t') then
      let (breaks, count) := lineEnds withTabs rest
      (breaks, count + 1)
    else ([], 0)

/-- What a run of line ends counts as inside a scalar: one line feed alone is a space, and behind a
line feed only the further ones count. -/
def foldBreaks : List Char → List Char
  | ['\n'] => [' ']
  | '\n' :: more => more
  | breaks => breaks

end HostWatch.Yaml
