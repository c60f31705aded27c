/-
**What can be wrong with a configuration.**

Each cause carries what its text is made of; `Fault.message` is the one place where the wording stands. Of a value
of any size in it, `Fault.raised` sees to it that it may be written.
-/
import HostWatch.Config.Field
import HostWatch.Value
import HostWatch.Yaml.Fault

namespace HostWatch.Config

/-- What is wrong with a configuration. -/
inductive Fault where
  /-- A field that holds an integer was given something else. -/
  | notAnInteger (field : IntegerField) (value : Value)
  /-- An integer is below the least value of its field. -/
  | belowLeast (field : IntegerField) (value : Int)
  /-- An integer is above the greatest value of its field. -/
  | aboveGreatest (field : IntegerField) (value greatest : Int)
  /-- The encryption is none of the constants. -/
  | notAnEncryption (value : Value)
  /-- The text given for an integer denotes none. -/
  | unreadableInteger (field : Field) (value : Value)
  /-- An integer in a value is too long to be shown. -/
  | unwritable
  /-- A field is used as a text, but its value is none. -/
  | notAText (field : TextField) (value : Value)
  /-- The text given for the encryption is none of its words. -/
  | unknownEncryption (value : Value)
  /-- A value is given to a field that does not exist. -/
  | unknownField (name : String)
  /-- A key names no field. -/
  | unknownKey (key : Value)
  /-- A reference names a variable that is not set, and has no default. -/
  | unsetVariable (name : String)
  | unreadable (path : String) (fault : Yaml.Fault)
  /-- The document is not a mapping. -/
  | notAMapping (path : String)
  | historyTooShort (length : Int)
  /-- A sampling interval of less than a millisecond. -/
  | intervalTooShort (milliseconds : Int)
  /-- A first sample before the start. -/
  | negativeDelay (milliseconds : Int)

def Fault.message : Fault → String
  | notAnInteger field value => s!"{field.name}: expected an integer, got {value.quoted}"
  | belowLeast field value => s!"{field.name}: {value} is less than the minimum of {field.least}"
  | aboveGreatest field value greatest =>
    s!"{field.name}: {value} is greater than the maximum of {greatest}"
  | notAnEncryption value => s!"{Field.encryptionName}: invalid value {value.quoted}"
  | unreadableInteger field value =>
    s!"{field.name}: failed to parse {value.quoted} as an integer"
  | unwritable => NumeralFault.unwritable.message
  | notAText field value => s!"{field.name}: expected a text, got {value.quoted}"
  | unknownEncryption value =>
    s!"{Field.encryptionName}: invalid value {value.quoted}, expected one of none, ssl, tls"
  | unknownField name => s!"Config.__init__() got an unexpected keyword argument '{name}'"
  | unknownKey key => s!"unknown configuration key {key.quoted}"
  | unsetVariable name => s!"environment variable {name} is not set"
  | unreadable path .malformed => s!"{path}: {Yaml.Fault.malformed.message}"
  | unreadable _ fault => fault.message
  | notAMapping path => s!"{path}: expected a mapping at the top level"
  | historyTooShort length => s!"history_length must be at least 1, got {length}"
  | intervalTooShort milliseconds =>
    s!"sample_interval_ms must be at least 1, got {milliseconds}"
  | negativeDelay milliseconds => s!"initial_delay_ms must not be negative, got {milliseconds}"

/-- Whether the integers in the text of a fault may be written. -/
def Fault.isWritable : Fault → Bool
  | notAnInteger _ value => value.isWritable
  | belowLeast _ value => Text.isWritable value
  | aboveGreatest _ value _ => Text.isWritable value
  | notAnEncryption value => value.isWritable
  | historyTooShort length => Text.isWritable length
  | intervalTooShort milliseconds => Text.isWritable milliseconds
  | negativeDelay milliseconds => Text.isWritable milliseconds
  | _ => true

/-- The fault that is raised: its text is made at once, and an integer in it that is too long is the fault
instead. -/
def Fault.raised (fault : Fault) : Fault := if fault.isWritable then fault else .unwritable

end HostWatch.Config
