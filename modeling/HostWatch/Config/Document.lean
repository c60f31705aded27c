/-
**Configurations from documents.**

A configuration file holds a mapping, either at its top or under the key `webmon`. A file that is
missing or holds nothing leaves every field at its default. The values in the mapping are looked at one
after the other, so that what is wrong with one of them hides what is wrong with the next one.

* `ofContent` makes a configuration of what a document holds, `ofDocument` of the document itself.
-/
import HostWatch.Config.Mapping
import HostWatch.Yaml.Document

namespace HostWatch.Config

/-- The key under which the mapping may stand. -/
def sectionKey : String := "webmon"

/-- The entries of a document that has a mapping under its section key, or else of the one at its top. -/
def entriesOf? (document : Yaml.Document) : Option (List (Value × Yaml.NodeId)) := do
  let entries ← document.entries? (← document.root?)
  let section? := entries.find? fun entry => entry.1.sameKey (.text sectionKey)
  return (section?.bind fun entry => document.entries? entry.2).getD entries

/-- The setting that one entry of a document makes. -/
def readDocumentEntry (environment : Environment) (document : Yaml.Document)
    (entry : Value × Yaml.NodeId) : Except Fault Setting := do
  let field ← fieldOf entry.1
  readFieldValue environment default field (document.valueAt entry.2)

/-- The configuration that what a document holds makes. -/
def ofContent (path : String) (environment : Environment) (document : Yaml.Document) :
    Except Fault Config :=
  if document.isEmpty then .ok default
  else match entriesOf? document with
    | none => .error (.notAMapping path)
    | some entries => do
      let settings ← entries.mapM (readDocumentEntry environment document)
      ofSettings default settings

/-- The configuration in the file at a path, which may be missing. -/
def ofDocument (path : String) (environment : Environment) (text : Option String) :
    Except Fault Config :=
  match text with
  | none => .ok default
  | some text =>
    match Yaml.Document.read (Text.unifyLineEnds text.toList) with
    | .error fault => .error (.unreadable path fault)
    | .ok document => ofContent path environment document

end HostWatch.Config
