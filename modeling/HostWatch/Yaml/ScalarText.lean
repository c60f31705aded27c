/-
**The texts of the scalars of a YAML document.**

A scalar is plain, stands in quotes, or is a block of lines behind a bar or an arrow. A plain or quoted
scalar may run over several lines: a line end inside it counts as a space, and each further one as itself.
In double quotes a backslash begins an escape; in single quotes two quotes stand for one. In a block, lines
stand for themselves behind a bar, and are joined like the ones of a plain scalar behind an arrow.

* `readPlain`, `readSingleQuoted`, `readDoubleQuoted` and `readBlock` read the text of a scalar and give
  the place behind it.
-/
import HostWatch.Yaml.Cursor
import HostWatch.Yaml.Fault

namespace HostWatch.Yaml

/-- A text and the place behind it. -/
abbrev TextReading := Except Fault (List Text.Glyph × Cursor)

/-! ### Plain scalars -/

/-- The characters that separate the items of a collection between brackets. -/
def isFlowMark (c : Char) : Bool :=
  c == ',' || c == '[' || c == ']' || c == '\x7b' || c == '\x7d'

/-- Whether a plain scalar cannot go on with the given text. -/
def stopsPlain (inFlow : Bool) : List Char → Bool
  | [] => true
  | ':' :: rest => endsWord rest || (inFlow && rest.head?.any isFlowMark)
  | c :: _ => isWordEnd c || (inFlow && (c == '?' || isFlowMark c))

/-- The longest run at the start of a text that a plain scalar can hold. -/
def plainRun (inFlow : Bool) : List Char → List Char
  | [] => []
  | c :: rest => if stopsPlain inFlow (c :: rest) then [] else c :: plainRun inFlow rest

/-- A plain scalar as it is read. -/
structure PlainReading where
  text : List Char
  /-- Whether a line ends between the scalar and the place. -/
  endsLine : Bool
  /-- The place behind the scalar and the spaces and line ends after it. -/
  behind : Cursor

/-- A plain scalar, run by run. The runs on further lines have to begin at column `indent` or behind it,
except between brackets, and not with a mark of a document. -/
def readPlainFrom (inFlow : Bool) (indent : Int) : Nat → Cursor → PlainReading
  | 0, cursor => ⟨[], false, cursor⟩
  | fuel + 1, cursor =>
    let run := if cursor.atCharacter '#' then [] else plainRun inFlow cursor.rest
    if run.isEmpty then ⟨[], false, cursor⟩
    else
      let (spaces, next) := (cursor.forward run.length).taking (· == ' ')
      let goOn (between : List Char) (endsLine : Bool) (further : Cursor) : PlainReading :=
        let more := readPlainFrom inFlow indent fuel further
        if more.text.isEmpty then ⟨run, endsLine, further⟩
        else { more with text := run ++ between ++ more.text }
      if next.atBreak then
        let (breaks, count) := lineEnds false next.rest
        let further := next.forward count
        if further.atDocumentMark || (!inFlow && further.column < indent) then ⟨run, true, further⟩
        else goOn (foldBreaks breaks) true further
      else if spaces.isEmpty then ⟨run, false, next⟩
      else goOn spaces false next

def readPlain (inFlow : Bool) (indent : Int) (cursor : Cursor) : PlainReading :=
  readPlainFrom inFlow indent (cursor.rest.length + 1) cursor

/-- Whether a plain scalar can begin with the given text. -/
def startsPlain (inFlow : Bool) : List Char → Bool
  | [] => false
  | c :: rest =>
    if isWordEnd c then false
    else if c == '-' then !endsWord rest
    else if c == '?' || c == ':' then !inFlow && !endsWord rest
    else !(isFlowMark c || "#&*!|>%@\x22\x27\x60".toList.contains c)

/-! ### Quoted scalars -/

/-- The number that so many digits to base sixteen at the start of a text make. -/
def readHex? (count : Nat) (s : List Char) : Option Nat :=
  let digits := s.take count
  if digits.length = count && digits.all Text.isHexDigit then some (Text.numberTo 16 digits) else none

/-- The characters that stand behind a backslash for one other character. -/
def shortEscapes : List (Char × Char) :=
  [('0', '\x00'), ('a', '\x07'), ('b', '\x08'), ('t', '\t'), ('\t', '\t'), ('n', '\n'), ('v', '\x0b'),
    ('f', '\x0c'), ('r', '\r'), ('e', '\x1b'), (' ', ' '), ('\x22', '\x22'), ('\\', '\\'), ('/', '/'),
    ('N', '\u0085'), ('_', '\u00a0'), ('L', '\u2028'), ('P', '\u2029')]

/-- The letters that stand behind a backslash before a number, with the number of its digits. -/
def numberEscapes : List (Char × Nat) := [('x', 2), ('u', 4), ('U', 8)]

/-- What is written behind a backslash, and the place behind that. -/
def readEscape (cursor : Cursor) : Except Fault (Text.Glyph × Cursor) :=
  match cursor.rest with
  | [] => .error .malformed
  | c :: rest =>
    match shortEscapes.lookup c with
    | some written => .ok (.char written, cursor.next)
    | none =>
      match (numberEscapes.lookup c).bind fun count => (readHex? count rest).map (·, count + 1) with
      | none => .error .malformed
      | some (code, length) =>
        match Text.Glyph.ofCode? code with
        | some glyph => .ok (glyph, cursor.forward length)
        | none => .error (.noCharacter code (cursor.index + length))

/-- What is left of a scalar in quotes, up to the closing quote. Blanks before a line end and behind
it are dropped; a mark of a document at the start of a line is refused. Behind a backslash, where
`escapes` allows one, a line end counts as nothing; where it does not, two quotes stand for one. -/
def readQuotedFrom (quote : Char) (escapes : Bool) : Nat → Cursor → TextReading
  | 0, _ => .error .malformed
  | fuel + 1, cursor =>
    let goOnWith (glyphs : List Text.Glyph) (next : Cursor) : TextReading :=
      (readQuotedFrom quote escapes fuel next).map fun (more, last) => (glyphs ++ more, last)
    let goOn (chunk : List Char) (next : Cursor) : TextReading :=
      goOnWith (Text.Glyph.ofText chunk) next
    let overBreaks (next : Cursor) (counted : List Char → List Char) : TextReading :=
      let (breaks, count) := lineEnds true next.rest
      let further := next.forward count
      if further.atDocumentMark then .error .malformed else goOn (counted breaks) further
    match cursor.rest with
    | [] => .error .malformed
    | c :: rest =>
      if isWordEnd c then
        let (blanks, next) := cursor.taking fun b => b == ' ' || b == '\t'
        if next.atBreak then overBreaks next foldBreaks else goOn blanks next
      else if c == quote then
        if !escapes && rest.head? == some quote then goOn [quote] (cursor.forward 2)
        else .ok ([], cursor.next)
      else if escapes && c == '\\' then
        if rest.head?.any isBreak then overBreaks cursor.next (List.drop 1)
        else do
          let (glyph, next) ← readEscape cursor.next
          goOnWith [glyph] next
      else goOn [c] cursor.next

/-- A scalar in single quotes, from the first one on. -/
def readSingleQuoted (cursor : Cursor) : TextReading :=
  readQuotedFrom '\x27' false (cursor.rest.length + 1) cursor.next

/-- A scalar in double quotes, from the first one on. -/
def readDoubleQuoted (cursor : Cursor) : TextReading :=
  readQuotedFrom '\x22' true (cursor.rest.length + 1) cursor.next

/-! ### Blocks of lines -/

/-- What becomes of the line ends at the end of a block of lines. -/
inductive Chomping where
  | clip
  | keep
  | strip

/-- What the signs behind the bar or the arrow say. -/
structure BlockHeader where
  chomping : Chomping
  /-- How far the block is indented, if that is said. -/
  indent? : Option Nat

/-- What a sign says about the line ends. -/
def chompingOf? (c : Char) : Option Chomping :=
  if c == '+' then some .keep else if c == '-' then some .strip else none

/-- The signs behind the bar or the arrow, in any order, up to a blank. -/
def readBlockHeader (cursor : Cursor) : Except Fault (BlockHeader × Cursor) := do
  let sign (cursor : Cursor) : Option Chomping × Cursor :=
    match cursor.rest.head?.bind chompingOf? with
    | some chomping => (some chomping, cursor.next)
    | none => (none, cursor)
  let (before, cursor) := sign cursor
  let (indent?, cursor) ← match cursor.rest.head?.filter fun c => '0' ≤ c ∧ c ≤ '9' with
    | none => pure (none, cursor)
    | some '0' => throw .malformed
    | some c => pure (some (c.toNat - '0'.toNat), cursor.next)
  let (behind, cursor) :=
    if before.isNone && indent?.isSome then sign cursor else (none, cursor)
  if cursor.rest.isEmpty || cursor.atCharacter ' ' || cursor.atBreak then
    return (⟨(before.or behind).getD .clip, indent?⟩, cursor)
  else throw .malformed

/-- The greatest number of spaces before a line end or the end of the blanks at the start of a text. -/
def deepestBlank (column : Nat) : List Char → Nat
  | [] => 0
  | c :: rest =>
    if c == ' ' then max (column + 1) (deepestBlank (column + 1) rest)
    else if isBreak c then deepestBlank 0 rest
    else 0

/-- The place behind the spaces that stand here, up to a column. -/
def skipToColumn (column : Nat) (cursor : Cursor) : Cursor :=
  cursor.forward (min (column - cursor.column) (cursor.rest.takeWhile (· == ' ')).length)

/-- The line ends of empty lines, and the place behind them and the spaces of the next line, of which no
more are taken than up to a column. -/
def emptyLines (column : Nat) : Nat → Cursor → List Char × Cursor
  | 0, cursor => ([], cursor)
  | fuel + 1, cursor =>
    let next := skipToColumn column cursor
    match next.rest with
    | c :: _ =>
      if isBreak c then
        let (breaks, last) := emptyLines column fuel next.next
        (breakCharacter c :: breaks, last)
      else ([], next)
    | [] => ([], next)

/-- The lines of a block. -/
structure BlockLines where
  /-- The text of the lines, without the end of the last one. -/
  text : List Char
  /-- The end of the last line. -/
  lastEnd : List Char
  /-- The ends of the empty lines behind it. -/
  emptyEnds : List Char
  /-- The place behind the block. -/
  behind : Cursor

/-- Whether a text begins with a space or a tabulator. -/
def startsBlank (s : List Char) : Bool := s.head?.any fun c => c == ' ' || c == '\t'

/-- The lines of a block at a column, with the ends of the empty lines before the first one. Where they
are `folded`, a line end between two lines that begin with a word counts as a space, and behind empty
lines as nothing. -/
def readBlockLines (folded : Bool) (column : Nat) : Nat → List Char → Cursor → BlockLines
  | 0, emptyEnds, cursor => ⟨[], [], emptyEnds, cursor⟩
  | fuel + 1, emptyEnds, cursor =>
    if cursor.column != column || cursor.atEnd then ⟨[], [], emptyEnds, cursor⟩
    else
      let (line, behind) := cursor.taking (!isBreak ·)
      let lineEnd := (behind.rest.take 1).map breakCharacter
      let (between, next) := emptyLines column (cursor.rest.length + 1) behind.next
      let joint :=
        if folded && lineEnd == ['\n'] && !startsBlank line && !startsBlank next.rest then
          if between.isEmpty then [' '] else []
        else lineEnd
      if next.column == column && !next.atEnd then
        let more := readBlockLines folded column fuel between next
        { more with text := emptyEnds ++ line ++ joint ++ more.text }
      else ⟨emptyEnds ++ line, lineEnd, between, next⟩

/-- A block of lines, from the sign behind the bar or the arrow on, inside a block at column `parent`. -/
def readBlock (folded : Bool) (parent : Int) (cursor : Cursor) :
    Except Fault (List Char × Cursor) := do
  let (header, cursor) ← readBlockHeader cursor
  let start ← cursor.leaveLine?.elim (throw .malformed) pure
  let fuel := start.rest.length + 1
  let least := max 1 (parent + 1).toNat
  let (column, emptyEnds, first) := match header.indent? with
    | some indent =>
      let column := least + indent - 1
      (column, emptyLines column fuel start)
    | none =>
      let (emptyEnds, count) := lineEnds false start.rest
      (max least (deepestBlank 0 start.rest), emptyEnds, start.forward count)
  let lines := readBlockLines folded column fuel emptyEnds first
  let ending := match header.chomping with
    | .clip => lines.lastEnd
    | .keep => lines.lastEnd ++ lines.emptyEnds
    | .strip => []
  return (lines.text ++ ending, lines.behind)

end HostWatch.Yaml
