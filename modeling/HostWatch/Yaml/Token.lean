/-
**The tokens of a YAML document.**

A document is a row of tokens. Most of them stand in the text: signs, names, scalars. Where a block begins
or ends only the indentation shows, and where a key begins only the colon behind it; tokens say so all the
same. The row ends with `finish`, or with a `broken` token where the text cannot be read on.

* `Token.readDirective`, `Token.readName` and `Token.readTag` read the tokens that begin with a percent
  sign, an ampersand or a star, and an exclamation mark.
-/
import HostWatch.Text.Digit
import HostWatch.Yaml.ScalarText

namespace HostWatch.Yaml

/-- A token of a document. -/
inductive Token where
  /-- The directive that says which version of the format is used. -/
  | version (major : Int)
  /-- The directive that gives a handle of tags its meaning. -/
  | handle (name meaning : String)
  | otherDirective
  | documentStart
  | documentEnd
  | listStart
  | mappingStart
  | blockEnd
  | flowListStart
  | flowListEnd
  | flowMappingStart
  | flowMappingEnd
  | dash
  /-- The next item of a collection between brackets or braces begins. -/
  | comma
  | key
  | value
  /-- What an anchor with this name marks stands here once more. -/
  | alias (name : String)
  | anchor (name : String)
  /-- The tag of what follows: a handle, if there is one, and a suffix. -/
  | tag (handle? : Option String) (suffix : String)
  | scalar (isPlain : Bool) (text : List Text.Glyph)
  | finish
  | broken (fault : Fault)

namespace Token

/-- Whether a token ends a list between brackets. -/
def isFlowListEnd : Token → Bool
  | flowListEnd => true
  | _ => false

/-- Whether a token ends a mapping between braces. -/
def isFlowMappingEnd : Token → Bool
  | flowMappingEnd => true
  | _ => false

/-- A token and the place behind it. -/
abbrev Reading := Except Fault (Token × Cursor)

def isNameCharacter (c : Char) : Bool :=
  Text.isAsciiDigit c || ('a' ≤ c && c ≤ 'z') || ('A' ≤ c && c ≤ 'Z') || c == '-' || c == '_'

/-- Whether the text ends here, or a space or a line end follows. -/
def atGap (cursor : Cursor) : Bool := cursor.atEnd || cursor.atCharacter ' ' || cursor.atBreak

/-- At least one character of a kind, and the place behind them. -/
def readSome (p : Char → Bool) (cursor : Cursor) : Except Fault (List Char × Cursor) :=
  let (taken, next) := cursor.taking p
  if taken.isEmpty then .error .malformed else .ok (taken, next)

/-! ### Anchors and aliases -/

/-- The characters that may follow the name of an anchor. -/
def endsName (cursor : Cursor) : Bool :=
  atGap cursor || cursor.rest.head?.any fun c => "\t?:,]\x7d%@\x60".toList.contains c

/-- The name behind an ampersand or a star. -/
def readName (make : String → Token) (cursor : Cursor) : Reading := do
  let (name, next) ← readSome isNameCharacter cursor.next
  if endsName next then return (make (String.ofList name), next) else throw .malformed

/-! ### Tags -/

/-- A character of the suffix of a tag that stands for itself. -/
def isTagCharacter (c : Char) : Bool :=
  isNameCharacter c || ";/?:@&=+$,.!~*\x27()[]".toList.contains c

/-- The bytes at a place, each a percent sign and two digits to base sixteen, and the place behind them. -/
def readBytes : Nat → Cursor → Except Fault (List UInt8 × Cursor)
  | 0, cursor => .ok ([], cursor)
  | fuel + 1, cursor =>
    if !cursor.atCharacter '%' then .ok ([], cursor)
    else do
      let some byte := readHex? 2 cursor.next.rest | throw .malformed
      let (more, last) ← readBytes fuel (cursor.forward 3)
      return (UInt8.ofNat byte :: more, last)

/-- What a tag goes on with: characters, and bytes that write characters. -/
def readTagText : Nat → Cursor → Except Fault (List Char × Cursor)
  | 0, cursor => .ok ([], cursor)
  | fuel + 1, cursor => do
    let (taken, next) := cursor.taking isTagCharacter
    if !next.atCharacter '%' then return (taken, next)
    let (bytes, next) ← readBytes fuel next
    let some written := String.fromUTF8? ⟨bytes.toArray⟩ | throw .malformed
    let (more, last) ← readTagText fuel next
    return (taken ++ written.toList ++ more, last)

/-- The text of a part of a tag, of at least one character, and the place behind it. -/
def readTagPart (cursor : Cursor) : Except Fault (List Char × Cursor) := do
  let (text, next) ← readTagText (cursor.rest.length + 1) cursor
  if text.isEmpty then throw .malformed else return (text, next)

/-- A handle of tags: an exclamation mark, or two with a name between them, which may be empty. -/
def readHandle (cursor : Cursor) : Except Fault (String × Cursor) :=
  if !cursor.atCharacter '!' then .error .malformed
  else if cursor.next.atCharacter ' ' then .ok ("!", cursor.next)
  else
    let (name, next) := cursor.next.taking isNameCharacter
    if next.atCharacter '!' then .ok ("!" ++ String.ofList name ++ "!", next.next)
    else .error .malformed

/-- A tag, with a blank behind it. -/
def readTag (cursor : Cursor) : Reading := do
  let behind := cursor.next
  let (handle?, suffix, next) ←
    if behind.atCharacter '<' then do
      let (suffix, next) ← readTagPart behind.next
      if next.atCharacter '>' then pure (none, suffix, next.next) else throw .malformed
    else if endsWord behind.rest then pure (none, ['!'], behind)
    else if (behind.rest.takeWhile fun c => c != ' ' && !isBreak c).contains '!' then do
      let (name, next) ← readHandle cursor
      let (suffix, next) ← readTagPart next
      pure (some name, suffix, next)
    else do
      let (suffix, next) ← readTagPart behind
      pure (some "!", suffix, next)
  if atGap next then return (tag handle? (String.ofList suffix), next) else throw .malformed

/-! ### Directives -/

/-- A part of the number of a version, for which the character behind it is looked at too. -/
def readVersionPart (cursor : Cursor) : Except Fault (Int × Cursor) := do
  let (digits, next) ← readSome Text.isAsciiDigit cursor
  let number ← (Text.readInteger digits).mapError fun fault => .version fault (next.index + 1)
  return (number, next)

/-- What a directive with a name says. -/
def readDirectiveOf (name : String) (cursor : Cursor) : Reading := do
  match name with
  | "YAML" =>
    let (major, next) ← readVersionPart cursor.skipSpaces
    if !next.atCharacter '.' then throw .malformed
    let (_, next) ← readVersionPart next.next
    return (version major, next)
  | "TAG" =>
    let (name, next) ← readHandle cursor.skipSpaces
    if !next.atCharacter ' ' then throw .malformed
    let (meaning, next) ← readTagPart next.skipSpaces
    return (Token.handle name (String.ofList meaning), next)
  | _ => return (otherDirective, (cursor.taking (!isBreak ·)).2)

/-- A directive, from its percent sign to the end of the line. -/
def readDirective (cursor : Cursor) : Reading := do
  let (name, behind) ← readSome isNameCharacter cursor.next
  if !atGap behind then throw .malformed
  let (token, next) ← readDirectiveOf (String.ofList name) behind
  if !atGap next then throw .malformed
  return (token, ← next.leaveLine?.elim (throw .malformed) pure)

end Token

end HostWatch.Yaml
