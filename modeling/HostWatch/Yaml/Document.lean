/-
**YAML documents.**

What a document holds are things that hold each other, perhaps themselves. Taken from one of them on, they
make a value: a thing that stands inside itself is not repeated there.

* `Document.read` reads a document.
* `Document.valueAt` is the value that a thing in a document makes, `Document.entries?` gives the keys and
  the things under them in one that is a mapping.
-/
import HostWatch.Yaml.Graph.Reader
import HostWatch.Yaml.Making

namespace HostWatch.Yaml

/-- What a document holds. -/
structure Document where
  /-- What its nodes make, in the order of their numbers. -/
  things : Array (Option Thing)
  /-- The node of the document, if it has one. -/
  root? : Option NodeId

namespace Document

def thing? (document : Document) (id : NodeId) : Option Thing := (document.things[id]?).join

/-- The scalar that a node makes, empty where it makes none. -/
def scalarAt (document : Document) (id : NodeId) : Value :=
  match document.thing? id with
  | some (.scalar value) => value
  | _ => .null

/-- The value that a node makes inside of the things of other nodes. -/
def valueInside (document : Document) : Nat → List NodeId → NodeId → Value
  | 0, _, _ => .null
  | fuel + 1, outer, id =>
    let inner (item : NodeId) : Value := document.valueInside fuel (id :: outer) item
    match document.thing? id with
    | none => .null
    | some (.scalar value) => value
    | some (.set members) => .setOf (members.map document.scalarAt)
    | some (.list items) =>
      if outer.contains id then .outerList else .list (items.map inner)
    | some (.pairs entries) =>
      if outer.contains id then .outerList
      else .list (entries.map fun (key, value) => .pair (inner key) (inner value))
    | some (.mapping entries) =>
      if outer.contains id then .outerMapping
      else .mapping (entries.map fun (key, value) => (document.scalarAt key, inner value))

/-- The value that a node makes. There are no more things inside of each other than nodes. -/
def valueAt (document : Document) (id : NodeId) : Value :=
  document.valueInside (document.things.size + 1) [] id

/-- The keys of a mapping, and the nodes of the values under them. -/
def entries? (document : Document) (id : NodeId) : Option (List (Value × NodeId)) :=
  match document.thing? id with
  | some (.mapping entries) => some (entries.map fun (key, value) => (document.scalarAt key, value))
  | _ => none

/-- Whether a document holds nothing, or the empty value. -/
def isEmpty (document : Document) : Bool :=
  match document.root?.map document.thing? with
  | none | some (some (.scalar .null)) => true
  | _ => false

def ofTokens (tokens : List Token) : Except Fault Document := do
  let (graph, root?) ← Graph.ofTokens tokens
  match root? with
  | none => return ⟨#[], none⟩
  | some root => return ⟨← Making.all graph root, root⟩

def read (text : List Char) : Except Fault Document :=
  match ofTokens (tokensOf text) with
  | .error fault => .error (fault.seenIn text isDocumentCharacter)
  | .ok document => if text.all isDocumentCharacter then .ok document else .error .malformed

end Document

end HostWatch.Yaml
