/-
**The nodes of a YAML document.**

Before a node may stand a tag, which says what it stands for, and an anchor, a name under which an alias
repeats the node further on, also inside of it. A document holds one node; the nodes inside of it get
their numbers in the order in which they begin.

* `Graph.ofTokens` reads the nodes of a document from its tokens.
-/
import HostWatch.Yaml.Graph.Basic
import HostWatch.Yaml.Layout

namespace HostWatch.Yaml.Graph

/-! ### Rows of tokens -/

/-- What is left of a document, and what its names mean. -/
structure Remainder where
  tokens : List Token
  graph : Graph
  anchors : List (String × NodeId)
  handles : List (String × String)
  /-- The number of lists and mappings that are open. -/
  depth : Nat

/-- A computation that takes tokens from a document. -/
abbrev Reader := StateT Remainder (Except Fault)

def peek : Reader Token := do
  match (← get).tokens with
  | .broken fault :: _ => throw fault
  | token :: _ => return token
  | [] => throw .malformed

def advance : Reader Unit := modify fun left => { left with tokens := left.tokens.drop 1 }

/-! ### Tags and anchors -/

/-- The whole tag that a handle and a suffix make. -/
def tagName (handle? : Option String) (suffix : String) : Reader String := do
  match handle? with
  | none => return suffix
  | some handle =>
    match (← get).handles.lookup handle with
    | some meaning => return meaning ++ suffix
    | none => throw .malformed

/-- The anchor and the tag before a node, in any order. -/
def properties : Reader (Option String × Option String) := do
  match ← peek with
  | .anchor name =>
    advance
    match ← peek with
    | .tag handle? suffix =>
      advance
      return (some name, some (← tagName handle? suffix))
    | _ => return (some name, none)
  | .tag handle? suffix =>
    advance
    match ← peek with
    | .anchor name =>
      advance
      return (some name, some (← tagName handle? suffix))
    | _ => return (none, some (← tagName handle? suffix))
  | _ => return (none, none)

/-- The tag of a list or a mapping before which stands a tag, or none. -/
def collectionTag (usual : Tag) (tag? : Option String) : Tag :=
  match tag? with
  | none | some "!" => usual
  | some name => .ofName name

/-- The tag of a scalar before which stands a tag, or none. -/
def scalarTag (tag? : Option String) (isPlain : Bool) (text : List Text.Glyph) : Tag :=
  match tag? with
  | none => if isPlain then .ofGlyphs text else .text
  | some "!" => .ofGlyphs text
  | some name => .ofName name

/-- Adds a node that has the anchor, if there is one. -/
def add (anchor? : Option String) (node : Node) : Reader NodeId := do
  let left ← get
  let id := left.graph.size
  set { left with
    graph := ⟨left.graph.nodes.push node⟩
    anchors := (anchor?.map (·, id)).toList ++ left.anchors }
  return id

def addScalar (anchor? tag? : Option String) (isPlain : Bool) (text : List Text.Glyph) :
    Reader NodeId :=
  add anchor? ⟨scalarTag tag? isPlain text, .scalar text⟩

/-- Adds the scalar that stands where nothing is written. -/
def addEmpty : Reader NodeId := addScalar none none true []

/-- How many lists and mappings may stand inside each other. -/
def greatestDepth : Nat := 491

/-- Adds a list or a mapping, and then what it holds. -/
def addCollection (anchor? : Option String) (tag : Tag) (content : Reader Content) :
    Reader NodeId := do
  let id ← add anchor? ⟨tag, .list []⟩
  if (← get).depth = greatestDepth then throw .tooDeep
  modify fun left => { left with depth := left.depth + 1 }
  let content ← content
  modify fun left => { left with
    graph := left.graph.changeNode id fun _ => ⟨tag, content⟩
    depth := left.depth - 1 }
  return id

/-- Refuses a name that stands for a node already. -/
def checkAnchor (anchor? : Option String) : Reader Unit := do
  if let some name := anchor? then
    if ((← get).anchors.lookup name).isSome then throw .malformed

/-- The node for which a name stands. -/
def named (name : String) : Reader NodeId := do
  match (← get).anchors.lookup name with
  | some id => return id
  | none => throw .malformed

/-! ### Nodes -/

/-- Takes the end of a collection between brackets, or the comma before its next item, and says whether it
was the end. There may be a comma before the end, but not before the first item. -/
def flowEnds (isEnd : Token → Bool) (isFirst : Bool) : Reader Bool := do
  if !isFirst && !isEnd (← peek) then
    match ← peek with
    | .comma => advance
    | _ => throw .malformed
  if isEnd (← peek) then
    advance
    return true
  else return false

mutual

/-- A node. In a block it may be a collection of blocks, and below a key a list whose dashes stand at the
column of the key. -/
def read : Nat → Bool → Bool → Reader NodeId
  | 0, _, _ => throw .malformed
  | fuel + 1, inBlock, underKey => do
    if let .alias name ← peek then
      advance
      return ← named name
    let (anchor?, tag?) ← properties
    let next ← peek
    checkAnchor anchor?
    let addList (items : Reader (List NodeId)) : Reader NodeId :=
      addCollection anchor? (collectionTag .list tag?) (.list <$> items)
    let addMapping (entries : Reader (List (NodeId × NodeId))) : Reader NodeId :=
      addCollection anchor? (collectionTag .mapping tag?) (.mapping <$> entries)
    match next, inBlock, underKey with
    | .dash, _, true => addList (readItems fuel true)
    | .scalar isPlain text, _, _ =>
      advance
      addScalar anchor? tag? isPlain text
    | .flowListStart, _, _ =>
      advance
      addList (readFlowItems fuel true)
    | .flowMappingStart, _, _ =>
      advance
      addMapping (readFlowEntries fuel true)
    | .listStart, true, _ =>
      advance
      addList (readItems fuel false)
    | .mappingStart, true, _ =>
      advance
      addMapping (readEntries fuel)
    | _, _, _ =>
      if anchor?.isNone && tag?.isNone then throw .malformed
      addScalar anchor? tag? true []

/-- What is left of a list in a block. Below a key, whatever is not a dash ends the list. -/
def readItems : Nat → Bool → Reader (List NodeId)
  | 0, _ => throw .malformed
  | fuel + 1, underKey => do
    match ← peek with
    | .dash =>
      advance
      let item ← match ← peek, underKey with
        | .dash, _ | .blockEnd, _ | .key, true | .value, true => addEmpty
        | _, _ => read fuel true false
      return item :: (← readItems fuel underKey)
    | .blockEnd =>
      if !underKey then advance
      return []
    | _ => if underKey then return [] else throw .malformed

/-- What is left of a mapping in a block. -/
def readEntries : Nat → Reader (List (NodeId × NodeId))
  | 0 => throw .malformed
  | fuel + 1 => do
    match ← peek with
    | .key =>
      advance
      let key ← readPart fuel
      let value ← match ← peek with
        | .value =>
          advance
          readPart fuel
        | _ => addEmpty
      return (key, value) :: (← readEntries fuel)
    | .blockEnd =>
      advance
      return []
    | _ => throw .malformed

/-- A key or a value in a block, which may be empty. -/
def readPart : Nat → Reader NodeId
  | 0 => throw .malformed
  | fuel + 1 => do
    match ← peek with
    | .key | .value | .blockEnd => addEmpty
    | _ => read fuel true true

/-- What is left of a list between brackets. A key with a value makes a mapping of its own. -/
def readFlowItems : Nat → Bool → Reader (List NodeId)
  | 0, _ => throw .malformed
  | fuel + 1, isFirst => do
    if ← flowEnds Token.isFlowListEnd isFirst then return []
    let item ← match ← peek with
      | .key => do
        addCollection none .mapping ((.mapping [·]) <$> readFlowEntry fuel)
      | _ => read fuel false false
    return item :: (← readFlowItems fuel false)

/-- What is left of a mapping between braces. A key may lack its value. -/
def readFlowEntries : Nat → Bool → Reader (List (NodeId × NodeId))
  | 0, _ => throw .malformed
  | fuel + 1, isFirst => do
    if ← flowEnds Token.isFlowMappingEnd isFirst then return []
    let entry ← match ← peek with
      | .key => readFlowEntry fuel
      | _ => do
        let key ← read fuel false false
        pure (key, ← addEmpty)
    return entry :: (← readFlowEntries fuel false)

/-- A key between brackets and its value, each of which may be empty. -/
def readFlowEntry : Nat → Reader (NodeId × NodeId)
  | 0 => throw .malformed
  | fuel + 1 => do
    advance
    let key ← readFlowPart fuel
    let value ← match ← peek with
      | .value =>
        advance
        readFlowPart fuel
      | _ => addEmpty
    return (key, value)

/-- A key or a value between brackets, which may be empty. -/
def readFlowPart : Nat → Reader NodeId
  | 0 => throw .malformed
  | fuel + 1 => do
    match ← peek with
    | .value | .comma | .flowListEnd | .flowMappingEnd => addEmpty
    | _ => read fuel false false

end

/-! ### Documents -/

/-- The handles of tags that every document knows. -/
def knownHandles : List (String × String) := [("!", "!"), ("!!", Tag.formatName)]

/-- Takes the directives before a document: the version at most once, and each handle at most once. -/
def readDirectives : Nat → Bool → List (String × String) → Reader Unit
  | 0, _, _ => throw .malformed
  | fuel + 1, hasVersion, handles => do
    match ← peek with
    | .version major =>
      advance
      if hasVersion || major != 1 then throw .malformed
      readDirectives fuel true handles
    | .handle name meaning =>
      advance
      if (handles.lookup name).isSome then throw .malformed
      readDirectives fuel hasVersion ((name, meaning) :: handles)
    | .otherDirective =>
      advance
      readDirectives fuel hasVersion handles
    | _ => modify fun left => { left with handles := handles ++ knownHandles }

/-- Takes the marks that end a document. -/
def skipEnds : Nat → Reader Unit
  | 0 => throw .malformed
  | fuel + 1 => do
    if let .documentEnd ← peek then
      advance
      skipEnds fuel

/-- A document behind its directives, from the mark at its start on. -/
def readMarked (fuel : Nat) : Reader NodeId := do
  readDirectives fuel false []
  match ← peek with
  | .documentStart => advance
  | _ => throw .malformed
  match ← peek with
  | .version _ | .handle _ _ | .otherDirective | .documentStart | .documentEnd | .finish => addEmpty
  | _ => read fuel true false

/-- Refuses whatever follows a document, which is looked at as far as to the mark of the next one. -/
def refuseMore (fuel : Nat) : Reader Unit := do
  readDirectives fuel false []
  let _ ← peek
  throw .malformed

/-- The node of the only document, if there is one. -/
def readOnly (fuel : Nat) : Reader (Option NodeId) := do
  let node ← match ← peek with
    | .finish => return none
    | .version _ | .handle _ _ | .otherDirective | .documentStart => readMarked fuel
    | _ => read fuel true false
  skipEnds fuel
  match ← peek with
  | .finish => return some node
  | _ =>
    refuseMore fuel
    return none

/-- The graph that a row of tokens makes, and the node of the document, if there is one. -/
def ofTokens (tokens : List Token) : Except Fault (Graph × Option NodeId) := do
  let (root?, left) ← (readOnly (3 * tokens.length + 4)).run ⟨tokens, empty, [], knownHandles, 0⟩
  return (left.graph, root?)

end HostWatch.Yaml.Graph
