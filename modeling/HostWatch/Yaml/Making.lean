/-
**What the nodes of a YAML document make.**

A node makes a scalar, a list, a mapping, a set or a list of pairs, and each node makes one thing, wherever
it stands. Scalars are made when they are met. The others are begun when they are met, and filled later, in
the order in which they were begun; so the one that is nested less deeply is filled first, and a thing can
stand inside itself. Of all faults the one that is met first counts.

A key of a mapping or a member of a set has to be a scalar. Two keys are one if their values are the same;
a value that is not a number is the same as itself only, which all scalars with the word for it are.

* `Making.all` makes what a node of a graph, and all that is inside of it, stand for.
-/
import HostWatch.Yaml.Graph.Merge
import HostWatch.Yaml.Scalar

namespace HostWatch.Yaml

/-- What a node makes. -/
inductive Thing where
  | scalar (value : Value)
  | list (items : List NodeId)
  | pairs (entries : List (NodeId × NodeId))
  | mapping (entries : List (NodeId × NodeId))
  | set (members : List NodeId)

/-- What has been made of a document. -/
structure Making where
  graph : Graph
  /-- What the nodes have made so far, in the order of their numbers. -/
  things : Array (Option Thing)
  /-- The nodes whose things are not filled yet, the one begun last first. -/
  begun : List NodeId

namespace Making

def start (graph : Graph) : Making := ⟨graph, Array.replicate graph.size none, []⟩

def thing? (making : Making) (id : NodeId) : Option Thing := (making.things[id]?).join

def scalar? (making : Making) (id : NodeId) : Option Value :=
  match making.thing? id with
  | some (.scalar value) => some value
  | _ => none

abbrev Step := StateT Making (Except Fault)

def keep (id : NodeId) (thing : Thing) : Step Unit :=
  modify fun making => { making with things := making.things.setIfInBounds id (some thing) }

def begin (id : NodeId) (thing : Thing) : Step Unit := do
  keep id thing
  modify fun making => { making with begun := id :: making.begun }

/-- The value of a scalar with a tag. A date or a time has to be in the node itself. -/
def scalarOf (graph : Graph) (id : NodeId) (tag : Tag) : Except Fault Value := do
  if tag = .merge ∨ tag = .value ∨ tag = .other then throw .malformed
  let text ← graph.scalarText id
  if tag = .timestamp && (graph.entries? id).isSome then throw .timeInMapping
  Scalar.read tag text

/-- Makes or begins what a node makes, unless that is done. -/
def make (id : NodeId) : Step Unit := do
  let making ← get
  if (making.thing? id).isSome then return
  match making.graph.tagOf id with
  | .list => begin id (.list [])
  | .orderedMapping | .pairs => begin id (.pairs [])
  | .mapping => begin id (.mapping [])
  | .set => begin id (.set [])
  | tag => keep id (.scalar (← scalarOf making.graph id tag))

/-! ### Filling -/

/-- Makes a key, which has to be a scalar, and its value. -/
def makeEntry (entry : NodeId × NodeId) : Step Unit := do
  make entry.1
  if ((← get).scalar? entry.1).isNone then throw .malformed
  make entry.2

/-- Whether a node has the word for what is not a number. -/
def hasNanWord (graph : Graph) (id : NodeId) : Bool :=
  match graph.scalarText id with
  | .ok text => Scalar.isNanWord text
  | .error _ => false

def isSameKey (making : Making) (a b : NodeId) : Bool :=
  match making.scalar? a, making.scalar? b with
  | some (.real .nan), some (.real .nan) =>
    a = b || (hasNanWord making.graph a && hasNanWord making.graph b)
  | some key, some other => key.sameKey other
  | _, _ => false

/-- The entries with one more entry: a key that is already there keeps its place and gets the new value. -/
def insertEntry (making : Making) (entries : List (NodeId × NodeId)) (entry : NodeId × NodeId) :
    List (NodeId × NodeId) :=
  if entries.any fun other => making.isSameKey other.1 entry.1 then
    entries.map fun other =>
      if making.isSameKey other.1 entry.1 then (other.1, entry.2) else other
  else entries ++ [entry]

/-- Makes the entries of a mapping, into which all is merged before. -/
def makeEntries (depth : Nat) (id : NodeId) : Step (List (NodeId × NodeId)) := do
  let making ← get
  if (making.graph.entries? id).isNone then throw .malformed
  let ((), graph) ← (Graph.flatten depth id).run making.graph
  modify fun making => { making with graph := graph }
  let entries := (graph.entries? id).getD []
  entries.forM makeEntry
  return entries.foldl (← get).insertEntry []

/-- Makes an entry in a list of pairs, each a mapping of one entry. -/
def makePair (item : NodeId) : Step (NodeId × NodeId) := do
  match (← get).graph.entries? item with
  | some [(key, value)] =>
    make key
    make value
    return (key, value)
  | _ => throw .malformed

/-- The items of a node that is a list. -/
def itemsOf (id : NodeId) : Step (List NodeId) := do
  match ((← get).graph.node? id).map Node.content with
  | some (.list items) => return items
  | _ => throw .malformed

/-- Fills what a node has begun to make. -/
def fill (depth : Nat) (id : NodeId) : Step Unit := do
  match (← get).graph.tagOf id with
  | .list =>
    let items ← itemsOf id
    items.forM make
    keep id (.list items)
  | .orderedMapping | .pairs =>
    let items ← itemsOf id
    keep id (.pairs (← items.mapM makePair))
  | .mapping => keep id (.mapping (← makeEntries depth id))
  | .set => keep id (.set ((← makeEntries depth id).map Prod.fst))
  | _ => return

/-- Fills all that is begun, and what is begun thereby. -/
def fillAll (depth : Nat) : Nat → Step Unit
  | 0 => return
  | fuel + 1 => do
    match (← get).begun.reverse with
    | [] => return
    | ids =>
      modify fun making => { making with begun := [] }
      ids.forM (fill depth)
      fillAll depth fuel

/-- What the nodes of a graph make that are a node and the nodes inside of it. Each node begins one thing
at most. -/
def all (graph : Graph) (root : NodeId) : Except Fault (Array (Option Thing)) := do
  let steps : Step Unit := do
    make root
    fillAll graph.mergeDepth (graph.size + 1)
  let ((), made) ← steps.run (start graph)
  return made.things

end Making

end HostWatch.Yaml
