/-
**The layout of a YAML document.**

Outside of brackets, indentation makes the blocks: a list or a mapping begins where its first dash or key
stands further right than the block around it, and it ends before the first token that stands further left.
A key is a token like any other until the colon behind it is reached; so the place where a key may have
begun is kept in mind, for each pair of brackets on its own, and forgotten with the line on which it stands.

* `Layout.step` reads one token.
* `tokensOf` gives all tokens of a document.
-/
import HostWatch.Yaml.Token

namespace HostWatch.Yaml

/-- A place where a key may have begun. -/
structure KeyPlace where
  number : Nat
  /-- Whether nothing but a key may stand there. -/
  isRequired : Bool
  place : Cursor

/-- The most characters from the start of a key to its colon. -/
def longestKey : Nat := 1024

/-- Whether a key that began at a place cannot have its colon at another one any more. -/
def KeyPlace.isOver (key : KeyPlace) (cursor : Cursor) : Bool :=
  key.place.line != cursor.line || longestKey < cursor.index - key.place.index

/-- What is known at a place of a document. -/
structure Layout where
  cursor : Cursor
  /-- The tokens before it, the last one first. -/
  tokens : List Token
  count : Nat
  /-- The columns of the blocks around the place, from inside to outside. -/
  columns : List Nat
  keyAllowed : Bool
  /-- The place where a key may have begun in the innermost collection. -/
  pending : Option KeyPlace
  /-- The same for the collections around each open bracket, from inside to outside. -/
  outerPending : List (Option KeyPlace)

namespace Layout

/-- The layout at the start of a document. -/
def start (document : List Char) : Layout := ⟨Cursor.start document, [], 0, [], true, none, []⟩

/-- Whether the place is between brackets. -/
def inFlow (layout : Layout) : Bool := !layout.outerPending.isEmpty

/-- The column of the innermost block. -/
def indent (layout : Layout) : Int :=
  match layout.columns with
  | [] => -1
  | column :: _ => column

def emit (layout : Layout) (token : Token) : Layout :=
  { layout with tokens := token :: layout.tokens, count := layout.count + 1 }

/-- The layout with one more token behind so many. -/
def insert (layout : Layout) (number : Nat) (token : Token) : Layout :=
  { layout with
    tokens := layout.tokens.insertIdx (layout.count - number) token
    count := layout.count + 1 }

/-- The layout at another place, with one more token. -/
def pass (layout : Layout) (token : Token) (cursor : Cursor) : Layout :=
  { layout.emit token with cursor := cursor }

/-! ### Blocks -/

/-- The layout behind the end of all blocks that stand further right than a column. -/
def closeBlocks (layout : Layout) (column : Int) : Layout :=
  if layout.inFlow then layout
  else
    let closed := (layout.columns.takeWhile fun (c : Nat) => column < c).length
    { layout with
      tokens := List.replicate closed .blockEnd ++ layout.tokens
      count := layout.count + closed
      columns := layout.columns.drop closed }

/-- The layout in a block at a column, which begins behind so many tokens if there is none yet. -/
def openBlock (layout : Layout) (number : Nat) (token : Token) (column : Nat) : Layout :=
  if layout.inFlow || column ≤ layout.indent then layout
  else { layout.insert number token with columns := column :: layout.columns }

/-! ### Keys -/

/-- The layout without the place where a key may have begun. -/
def forgetKey (layout : Layout) : Except Fault Layout :=
  if layout.pending.any KeyPlace.isRequired then .error .malformed
  else .ok { layout with pending := none }

/-- The layout that keeps in mind that a key may begin here. -/
def expectKey (layout : Layout) : Except Fault Layout := do
  if !layout.keyAllowed then return layout
  let isRequired := !layout.inFlow && layout.indent == layout.cursor.column
  let layout ← layout.forgetKey
  return { layout with pending := some ⟨layout.count, isRequired, layout.cursor⟩ }

/-- The layout without the places where a key can no longer have begun. -/
def forgetOverKeys (layout : Layout) : Except Fault Layout :=
  let isOver (key : KeyPlace) : Bool := key.isOver layout.cursor
  let keep (key? : Option KeyPlace) : Option KeyPlace := key?.filter fun key => !isOver key
  if (layout.pending :: layout.outerPending).any fun key? =>
      key?.any fun key => isOver key && key.isRequired then .error .malformed
  else .ok { layout with pending := keep layout.pending, outerPending := layout.outerPending.map keep }

/-- The number of tokens of which it is known that no key begins before them. -/
def settledCount (layout : Layout) : Nat :=
  (layout.pending :: layout.outerPending).foldl
    (fun count key? => key?.elim count fun key => min count key.number) layout.count

/-! ### Single tokens -/

/-- The layout behind a token that may be a key or the start of one. -/
def content (layout : Layout) (reading : Cursor → Token.Reading) : Except Fault Layout := do
  let layout ← layout.expectKey
  let (token, behind) ← reading layout.cursor
  return { layout.pass token behind with keyAllowed := false }

/-- The layout behind a scalar in quotes. -/
def quoted (layout : Layout) (reading : Cursor → TextReading) : Except Fault Layout :=
  layout.content fun cursor =>
    (reading cursor).map fun (glyphs, behind) => (.scalar false glyphs, behind)

/-- The layout behind a plain scalar. -/
def plain (layout : Layout) : Except Fault Layout := do
  let layout ← layout.expectKey
  let reading := readPlain layout.inFlow (layout.indent + 1) layout.cursor
  return { layout.pass (.scalar true (Text.Glyph.ofText reading.text)) reading.behind with
    keyAllowed := reading.endsLine }

/-- The layout behind a block of lines. -/
def lines (layout : Layout) (folded : Bool) : Except Fault Layout := do
  let layout ← layout.forgetKey
  let (text, behind) ← readBlock folded layout.indent layout.cursor.next
  return { layout.pass (.scalar false (Text.Glyph.ofText text)) behind with keyAllowed := true }

/-- The layout behind the dash of an item, or behind the mark of a key that is written out. -/
def indicator (layout : Layout) (block token : Token) (allowsKey : Bool) : Except Fault Layout := do
  if !layout.inFlow && !layout.keyAllowed then throw .malformed
  let layout ← (layout.openBlock layout.count block layout.cursor.column).forgetKey
  return { layout.pass token layout.cursor.next with keyAllowed := allowsKey }

/-- The layout behind the colon before a value. -/
def colon (layout : Layout) : Except Fault Layout :=
  match layout.pending with
  | some key =>
    let layout := { layout with pending := none }.insert key.number .key
    let layout := layout.openBlock key.number .mappingStart key.place.column
    .ok { layout.pass .value layout.cursor.next with keyAllowed := false }
  | none => layout.indicator .mappingStart .value (!layout.inFlow)

/-- The layout behind an opening bracket. -/
def openFlow (layout : Layout) (token : Token) : Except Fault Layout := do
  let layout ← layout.expectKey
  return { layout.pass token layout.cursor.next with
    keyAllowed := true, pending := none, outerPending := layout.pending :: layout.outerPending }

/-- The layout behind a closing bracket. -/
def closeFlow (layout : Layout) (token : Token) : Except Fault Layout := do
  let layout ← layout.forgetKey
  match layout.outerPending with
  | [] => throw .malformed
  | pending :: outerPending =>
    return { layout.pass token layout.cursor.next with
      keyAllowed := false, pending := pending, outerPending := outerPending }

/-- The layout behind a comma. -/
def comma (layout : Layout) : Except Fault Layout := do
  let layout ← layout.forgetKey
  return { layout.pass .comma layout.cursor.next with keyAllowed := true }

/-- The layout behind a token that ends all blocks. -/
def outermost (layout : Layout) (reading : Cursor → Token.Reading) : Except Fault Layout := do
  let layout ← (layout.closeBlocks (-1)).forgetKey
  let (token, behind) ← reading layout.cursor
  return { layout.pass token behind with keyAllowed := false }

/-! ### The row of tokens -/

def atToken (layout : Layout) : Except Fault Layout := do
  let cursor := layout.cursor.skipped
  let newLine := !layout.inFlow && layout.cursor.line < cursor.line
  let layout ← { layout with
    cursor := cursor, keyAllowed := layout.keyAllowed || newLine }.forgetOverKeys
  return layout.closeBlocks cursor.column

/-- The layout behind the next token. -/
def step (layout : Layout) : Except Fault Layout := do
  let layout ← layout.atToken
  let cursor := layout.cursor
  let inFlow := layout.inFlow
  let mark (token : Token) : Except Fault Layout :=
    layout.outermost fun cursor => .ok (token, cursor.forward 3)
  match cursor.rest with
  | [] => layout.outermost fun cursor => .ok (.finish, cursor)
  | c :: rest =>
    if c == '%' && cursor.column == 0 then layout.outermost Token.readDirective
    else if cursor.atMark "---" then mark .documentStart
    else if cursor.atMark "..." then mark .documentEnd
    else if c == '[' then layout.openFlow .flowListStart
    else if c == '\x7b' then layout.openFlow .flowMappingStart
    else if c == ']' then layout.closeFlow .flowListEnd
    else if c == '\x7d' then layout.closeFlow .flowMappingEnd
    else if c == ',' then layout.comma
    else if c == '-' && endsWord rest then layout.indicator .listStart .dash true
    else if c == '?' && (inFlow || endsWord rest) then
      layout.indicator .mappingStart .key (!inFlow)
    else if c == ':' && (inFlow || endsWord rest) then layout.colon
    else if c == '*' then layout.content (Token.readName .alias)
    else if c == '&' then layout.content (Token.readName .anchor)
    else if c == '!' then layout.content Token.readTag
    else if c == '|' && !inFlow then layout.lines false
    else if c == '>' && !inFlow then layout.lines true
    else if c == '\x27' then layout.quoted readSingleQuoted
    else if c == '\x22' then layout.quoted readDoubleQuoted
    else if startsPlain inFlow cursor.rest then layout.plain
    else throw .malformed

/-- The tokens that are known to come next even though the text cannot be read on. -/
def brokenBy (layout : Layout) (settled : Nat) (fault : Fault) : List Token :=
  (.broken fault :: layout.tokens.drop (layout.count - settled)).reverse

/-- The tokens of a document of which some have been read. -/
def tokensFrom : Nat → Layout → List Token
  | 0, layout => layout.brokenBy layout.count .malformed
  | fuel + 1, layout =>
    match layout.forgetOverKeys with
    | .error fault => layout.brokenBy layout.count fault
    | .ok layout =>
      match layout.step with
      | .error fault => layout.brokenBy layout.settledCount fault
      | .ok next =>
        match next.tokens with
        | .finish :: _ => next.tokens.reverse
        | _ => tokensFrom fuel next

end Layout

def tokensOf (document : List Char) : List Token :=
  (Layout.start document).tokensFrom (document.length + 2)

end HostWatch.Yaml
