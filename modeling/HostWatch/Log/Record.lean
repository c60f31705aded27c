/-
**Log events and records.**

An event is logged at a logger by one of the words for severities. It is recorded when its severity
reaches the level of the log. A record holds the text of the event, with the values of the event in its
places, and the fields of the event. Some fields say something about the logging itself and are not
recorded, and the fields that every record has take precedence over fields of the same names.

* `Log.readLevel` reads the level of a log from its name.
* `Log.record?` makes the record of an event.
-/
import HostWatch.Failure
import HostWatch.Text.LetterCase

namespace HostWatch

/-- How severe an event is. -/
inductive Severity where
  | debug
  | info
  | warning
  | error
  | critical
deriving DecidableEq

namespace Severity

/-- All severities, the least severe one first. -/
def all : List Severity := [debug, info, warning, error, critical]

def word : Severity → String
  | debug => "debug"
  | info => "info"
  | warning => "warning"
  | error => "error"
  | critical => "critical"

def otherWords : List (String × Severity) :=
  [("warn", warning), ("exception", error), ("fatal", critical)]

def ofWord? (word : String) : Option Severity :=
  (all.find? fun severity => severity.word = word).or (otherWords.lookup word)

/-- The level that a severity reaches. -/
def level : Severity → Int
  | debug => 10
  | info => 20
  | warning => 30
  | error => 40
  | critical => 50

end Severity

/-- Something that happened. -/
structure LogEvent where
  /-- The logger at which it happened. -/
  logger : String
  /-- The word by which it was logged. -/
  word : String
  /-- What happened, with places for the values. -/
  template : String
  fields : List (String × Value)
  values : List Value

/-- What is recorded of an event. -/
structure LogRecord where
  /-- The logger at which it happened. -/
  logger : String
  severity : Severity
  event : String
  fields : List (String × Value)

namespace Log

/-- The level of a log for which none is given. -/
def defaultLevel : Int := Severity.info.level

def levels : List (String × Int) := [
  ("NOTSET", 0), ("DEBUG", Severity.debug.level), ("INFO", Severity.info.level),
  ("WARN", Severity.warning.level), ("WARNING", Severity.warning.level),
  ("ERROR", Severity.error.level), ("FATAL", Severity.critical.level),
  ("CRITICAL", Severity.critical.level)]

/-- The level with a name, in letters of any case. -/
def readLevel (name : String) : Except Failure Int :=
  match levels.lookup (Text.upper name) with
  | some level => .ok level
  | none => .error (.unknownLevel ("Level " ++ Text.upper name))

/-- The name of the logger above all others, which a logger without a name stands for. -/
def rootName : String := "root"

/-- The names of the fields that every record has. -/
def ownFields : List String := ["event", "level", "logger", "timestamp"]

/-- The name of the field for values that are not given with the event. -/
def valuesField : String := "positional_args"

/-- The name of the field for a record that is given with the event. -/
def recordField : String := "_record"

/-- The names of the fields about the stack and the error, which are not recorded. -/
def unrecordedFields : List String := ["stack_info", "exc_info"]

/-- The word for events with a level in their first place, for which a text does not stand. -/
def levelWord : String := "log"

def severityOf (event : LogEvent) : Except Failure Severity :=
  match Severity.ofWord? event.word with
  | some severity => .ok severity
  | none =>
    .error (if event.word = levelWord then .notALevel event.template else .unknownWord event.word)

/-- The calls that log an event by a word, the outer one first, with the names of their own arguments. -/
def calls (word : String) : List (String × List String) :=
  [(if word = "warn" then Severity.warning.word else word, ["self", "event"]),
    ("_proxy_to_logger", ["method_name"])]

/-- Refuses the fields with the names of arguments of a call. -/
def checkFields (event : LogEvent) : Except Failure Unit :=
  let taken? (call : String × List String) : Option Failure :=
    (event.fields.find? fun field => call.2.contains field.1).map fun field =>
      .givenTwice call.1 field.1
  match (calls event.word).findSome? taken? with
  | some failure => .error failure
  | none => .ok ()

/-- The values in a value that should be a row of them. A row of a single mapping that is not empty stands
for the mapping. -/
def valuesIn : Value → Except Failure TemplateValues
  | .list [.mapping (entry :: rest)] => .ok (.single (.mapping (entry :: rest)))
  | .mapping [_] => .error (.missingEntry 0)
  | .list items => .ok (.single (.list items))
  | .mapping entries => .ok (.single (.mapping entries))
  | .text s => .ok (.single (.text s))
  | value => .error (.template (.uncountable value.kindWord))

/-- The values of an event, if it has some. -/
def valuesOf (event : LogEvent) : Except Failure (Option TemplateValues) :=
  match event.values with
  | [] =>
    match event.fields.lookup valuesField with
    | none => .ok none
    | some value => if value.isTrue then (valuesIn value).map some else .ok none
  | [.mapping (entry :: rest)] => .ok (some (.single (.mapping (entry :: rest))))
  | values => .ok (some (.row values))

/-- The text of an event. An event without values is taken as it is. -/
def textOf (event : LogEvent) : Except Failure String := do
  match ← valuesOf event with
  | none => return event.template
  | some values => (Template.fill event.template values).mapError .template

/-- Whether a field of an event is recorded: an empty value for the values is. -/
def isRecorded (event : LogEvent) (field : String × Value) : Bool :=
  if field.1 = valuesField then
    event.values.isEmpty && match field.2 with
      | .null => true
      | _ => false
  else !ownFields.contains field.1 && !unrecordedFields.contains field.1

/-- Refuses a field that should be a record. -/
def checkRecord (event : LogEvent) : Except Failure Unit :=
  match event.fields.lookup recordField with
  | none | some .null => .ok ()
  | some _ => .error .notARecord

/-- The record of an event in a log with a level, if the event reaches it. -/
def record? (level : Int) (event : LogEvent) : Except Failure (Option LogRecord) := do
  let severity ← severityOf event
  checkFields event
  if severity.level < level then return none
  else
    checkRecord event
    return some {
      logger := if event.logger.isEmpty then rootName else event.logger
      severity := severity
      event := ← textOf event
      fields := event.fields.filter (isRecorded event) }

/-- The records of events, in their order. -/
def records (level : Int) (events : List LogEvent) : Except Failure (List LogRecord) := do
  return (← events.mapM (record? level)).filterMap id

end Log

end HostWatch
