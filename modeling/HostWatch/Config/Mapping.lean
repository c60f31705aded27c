/-
**Configurations from mappings.**

A mapping assigns values to fields by their keys. Each entry is read on its own, in the order of the
mapping: the key has to name a field, references in a text are replaced, and the value has to have a
text that the field can read. A text field whose value in the base is an integer reads an integer too. The
last entry of a field counts, and the configuration as a whole has to be valid.

* `readSetting` reads the value for a field.
* `ofMapping` is the whole way from a mapping to a configuration.
-/
import HostWatch.Config.Basic
import HostWatch.Config.Reference
import HostWatch.Text.LetterCase

namespace HostWatch.Config

/-- A value for one field. -/
inductive Setting where
  | integer (field : IntegerField) (n : Int)
  | encryption (e : Encryption)
  | text (field : TextField) (value : Value)

/-- The configuration with one field set. -/
def set (config : Config) : Setting → Config
  | .integer field n =>
    { config with integer := fun other => if other = field then n else config.integer other }
  | .encryption e => { config with encryption := e }
  | .text field value =>
    { config with text := fun other => if other = field then value else config.text other }

/-- The encryption that a word names, in letters of any case. -/
def readEncryption? (s : List Char) : Option Encryption :=
  Encryption.all.find? fun e => Text.equalsIgnoringCase s e.word

/-- The integer that the text of a value denotes, for a field. -/
def readIntegerFor (field : Field) (value : Value) : Except Fault Int :=
  (Text.readInteger (Text.trimmed value.toText.toList)).mapError fun _ =>
    .unreadableInteger field value

/-- The text of a value; an empty value stays empty. -/
def asText : Value → Value
  | .null => .null
  | .halves glyphs => .halves glyphs
  | value => .text value.toText

def isInteger : Value → Bool
  | .int _ => true
  | _ => false

/-- The setting of a field of a configuration by a value, read from the text of the value. -/
def readSetting (base : Config) (field : Field) (value : Value) : Except Fault Setting :=
  if !value.isWritable then .error .unwritable
  else match field with
    | .integer name => (readIntegerFor field value).map (.integer name)
    | .encryption =>
      match readEncryption? value.toText.toList with
      | some e => .ok (.encryption e)
      | none => .error (.unknownEncryption value)
    | .text name =>
      if isInteger (base.text name) then
        (readIntegerFor field value).map fun n => .text name (.int n)
      else .ok (.text name (asText value))

def fieldOf : Value → Except Fault Field
  | .text key =>
    match Field.ofKey? key with
    | some field => .ok field
    | none => .error (.unknownKey (.text key))
  | key => .error (if key.isWritable then .unknownKey key else .unwritable)

/-- The setting of a field by a value in which references are replaced. -/
def readFieldValue (environment : Environment) (base : Config) (field : Field) (value : Value) :
    Except Fault Setting := do
  let value ← substitute environment value
  readSetting base field value

/-- The setting that one entry of a mapping makes. -/
def readEntry (environment : Environment) (base : Config) (entry : Value × Value) :
    Except Fault Setting := do
  let field ← fieldOf entry.1
  readFieldValue environment base field entry.2

/-- The settings of a mapping, in order. -/
def readEntries (environment : Environment) (base : Config) (entries : List (Value × Value)) :
    Except Fault (List Setting) :=
  entries.mapM (readEntry environment base)

/-- The configuration that settings make of another one. -/
def ofSettings (base : Config) (settings : List Setting) : Except Fault Config :=
  check (settings.foldl set base)

/-- The configuration that a mapping makes of another one. -/
def ofMapping (environment : Environment) (base : Config) (entries : List (Value × Value)) :
    Except Fault Config := do
  let settings ← readEntries environment base entries
  ofSettings base settings

end HostWatch.Config
