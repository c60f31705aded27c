/-
**The activity of disks.**

A line of the disk counters names a device in its third column and counts the milliseconds that it spent
on input and output in its thirteenth. A device whose name ends in a digit is part of a disk and does not
count.

* `DiskActivity.parse` adds up the counters.
* `DiskActivity.percent` is the share of time spent between two captures, for each CPU.
-/
import HostWatch.Failure
import HostWatch.Text.Blank
import HostWatch.Text.Digit

namespace HostWatch

/-- A capture of the time that all disks together spent on input and output. -/
structure DiskActivity where
  /-- The time spent, in milliseconds. -/
  spent : Int
  /-- The moment of the capture, in milliseconds. -/
  time : Int
deriving DecidableEq

namespace DiskActivity

/-- The text of a capture in messages. -/
def toText (activity : DiskActivity) : String :=
  s!"Diskstats(millis_spent_io={activity.spent}, current_time_millis={activity.time})"

/-- The integers in the text of a capture. -/
def integers (activity : DiskActivity) : List Int := [activity.spent, activity.time]

/-- The column with the name of the device. -/
def nameColumn : Nat := 2

def spentColumn : Nat := 12

/-- Whether a device is a whole disk: its name does not end in a digit. -/
def isWholeDisk (name : List Char) : Bool :=
  !(name.getLast?.any Text.isDigit)

/-- The time spent that a line counts: nothing when the line is too short or for part of a disk. -/
def lineSpent (line : List Char) : Except Failure Int :=
  let columns := Text.words line
  match columns[nameColumn]?, columns[spentColumn]? with
  | some name, some spent => if isWholeDisk name then readInteger spent else .ok 0
  | _, _ => .ok 0

/-- The activity that a text tells, captured at some moment. -/
def parse (text : List Char) (time : Int) : Except Failure DiskActivity := do
  let spent ← (Text.lines text).mapM lineSpent
  return ⟨spent.foldr (· + ·) 0, time⟩

/-- The share of time spent between two captures, for each CPU, in percent. -/
def percent (earlier later : DiskActivity) (cpus : Int) : Except Failure Int :=
  let passed := later.time - earlier.time
  if passed < 0 then
    .error (.notSampledEarlier earlier.toText later.toText (earlier.integers ++ later.integers))
  else if passed = 0 then .ok 0
  else .ok (clampPercent ((later.spent - earlier.spent) * 100 / passed / max 1 cpus))

end DiskActivity

end HostWatch
