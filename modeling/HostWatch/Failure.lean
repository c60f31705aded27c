/-
**Failures.**

Whatever can go wrong is a `Failure`: a fault of one of the parts of the library, or an error that
something outside of it reported. A failure ends the computation in which it arises, until some part
takes it in and goes on.

* `Failure.message` gives the text of a failure, if it can be written.
* `Failure.kind` sorts the failures.
-/
import HostWatch.Config.Fault
import HostWatch.Log.Template
import HostWatch.Number
import HostWatch.ReportedError
import HostWatch.Service.Lifecycle
import HostWatch.Usage.Cpu
import HostWatch.Usage.Memory

namespace HostWatch

/-- What can go wrong. -/
inductive Failure where
  /-- A percentage out of range. -/
  | percent (fault : PercentFault)
  /-- Figures that are no memory usage. -/
  | memory (fault : MemoryFault)
  | arithmetic (fault : ArithmeticFault)
  | config (fault : Config.Fault)
  | service (fault : ServiceFault)
  /-- An error reported from outside. -/
  | reported (error : ReportedError)
  | noCapacity (capacity : Int)
  | numeral (fault : NumeralFault)
  | missingColumn
  /-- The counters of the host lack those of all cores together. -/
  | missingOverallCpu
  /-- The name of a process is not closed. -/
  | unclosedName
  /-- The size of a page of memory is not known. -/
  | unknownPageSize
  /-- A property that a file does not have, with those that it has. -/
  | missingProperty (name : String) (available : List String)
  /-- The first of two measurements was taken after the second one; the integers are those in their texts. -/
  | doesNotPrecede (role earlier later : String) (integers : List Int)
  /-- The first of two captures of disk activity was taken after the second one. -/
  | notSampledEarlier (earlier later : String) (integers : List Int)
  | missingSampleTime
  | missingThreads
  /-- The collection of a generation that is not known ended. -/
  | unknownGeneration
  /-- A lock was released by a thread that does not hold it. -/
  | notAcquired
  | alreadyFree
  /-- A text whose places and values do not fit. -/
  | template (fault : TemplateFault)
  /-- A level of log events that does not exist. -/
  | unknownLevel (level : String)
  /-- A word by which no event is logged. -/
  | unknownWord (word : String)
  /-- A text in the place of a level of log events. -/
  | notALevel (text : String)
  /-- A call was given one of its arguments twice. -/
  | givenTwice (call name : String)
  /-- A mapping has no entry with an integer as its key. -/
  | missingEntry (key : Int)
  /-- A value that should be the record of a log event is none. -/
  | notARecord

/-- The text of a failure. That of an error reported from outside is made only now, and may fail. -/
def Failure.message : Failure → Except NumeralFault String
  | percent fault => .ok fault.message
  | memory fault => .ok fault.message
  | arithmetic fault => .ok fault.message
  | config fault => .ok fault.message
  | service fault => .ok fault.message
  | reported error => error.message
  | noCapacity capacity =>
    .ok (Text.faultText [capacity] s!"max_length must be at least 1, got {capacity}")
  | numeral fault => .ok fault.message
  | missingColumn => .ok "list index out of range"
  | missingOverallCpu => .ok "No cpu line in /proc/stat"
  | unclosedName => .ok "substring not found"
  | unknownPageSize => .ok "Linux page size not available"
  | missingProperty name available =>
    .ok (s!"Parameter name: invalid value {name}: not present in properties. " ++
      "Available properties: [" ++ ", ".intercalate (available.map Text.quoted) ++ "]")
  | doesNotPrecede role earlier later integers =>
    .ok (Text.faultText integers s!"Parameter {role}: invalid value {earlier}: does not precede {later}")
  | notSampledEarlier earlier later integers =>
    .ok (Text.faultText integers
      s!"Parameter prev: invalid value {earlier}: must be sampled earlier than this: {later}")
  | missingSampleTime => .ok "sample_time has not been set"
  | missingThreads => .ok "threads have not been set"
  | unknownGeneration => .ok "list index out of range"
  | notAcquired => .ok "cannot release un-acquired lock"
  | alreadyFree => .ok "release unlocked lock"
  | template fault => .ok fault.message
  | unknownLevel level => .ok ("Unknown level: " ++ Text.quoted level)
  | unknownWord word => .ok ("no event is logged by the word " ++ Text.quoted word)
  | notALevel text => .ok (Text.quoted text)
  | givenTwice call name =>
    .ok s!"BoundLogger.{call}() got multiple values for argument {Text.quoted name}"
  | missingEntry key => Text.decimal key
  | notARecord => .ok "the value given for the record is none"

def Failure.kind : Failure → FailureKind
  | arithmetic fault => fault.kind
  | config (.notAText ..) | notARecord | unknownWord _ => .missingPart
  | config (.unknownField _) | givenTwice .. => .wrongKind
  | config .unwritable => .wrongValue
  | config (.unreadable _ fault) => fault.kind
  | config _ => .configuration
  | service _ => .serviceState
  | reported error => .reported error.category
  | missingColumn | unknownGeneration => .missingPosition
  | unknownPageSize | notAcquired | alreadyFree => .misuse
  | template fault => fault.kind
  | missingEntry _ | notALevel _ => .missingKey
  | _ => .wrongValue

/-- An integer read from a text, or the failure to find one in it. -/
def readInteger (s : List Char) : Except Failure Int :=
  (Text.readInteger s).mapError .numeral

end HostWatch
