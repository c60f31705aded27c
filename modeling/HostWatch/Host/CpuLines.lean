/-
**CPU counters from a text.**

A line that begins with `cpu ` counts the ticks of all cores together, and any other line that begins
with `cpu` those of one core. Usage is the share of ticks that were not idle between two captures. The
busiest core counts only when both captures have the same number of cores, which are then compared by
their places.

* `CpuLines.parse` reads the counters.
* `CpuLines.usage` compares two captures.
-/
import HostWatch.Failure
import HostWatch.Text.Blank

namespace HostWatch

/-- The ticks that CPUs spent in four ways. -/
structure CpuTicks where
  user : Int
  nice : Int
  system : Int
  idle : Int
deriving DecidableEq

namespace CpuTicks

def total (ticks : CpuTicks) : Int := ticks.user + ticks.nice + ticks.system + ticks.idle

/-- The text of the ticks in messages. -/
def toText (ticks : CpuTicks) : String :=
  s!"Stat(user={ticks.user}, nice={ticks.nice}, system={ticks.system}, idle={ticks.idle})"

/-- The integers in the text of the ticks. -/
def integers (ticks : CpuTicks) : List Int := [ticks.user, ticks.nice, ticks.system, ticks.idle]

/-- The integer in a column of a line. -/
def column (columns : List (List Char)) (index : Nat) : Except Failure Int :=
  match columns[index]? with
  | none => .error .missingColumn
  | some column => readInteger column

/-- The ticks on a line, in the four columns behind its name. -/
def parse (line : List Char) : Except Failure CpuTicks := do
  let columns := Text.words line
  return ⟨← column columns 1, ← column columns 2, ← column columns 3, ← column columns 4⟩

/-- The usage between two captures, in percent. Neither all ticks together nor the idle ones may have
gone back; where no tick passed there is no usage. -/
def usage (earlier later : CpuTicks) : Except Failure Int :=
  let passed := later.total - earlier.total
  if passed < 0 ∨ later.idle < earlier.idle then
    .error (.doesNotPrecede "prev" earlier.toText later.toText (earlier.integers ++ later.integers))
  else if passed = 0 then .ok 0
  else .ok (100 - clampPercent (100 * (later.idle - earlier.idle) / passed))

end CpuTicks

/-- A capture of the CPU counters. -/
structure CpuLines where
  overall : CpuTicks
  cores : List CpuTicks
deriving DecidableEq

/-- The usage of all cores together with that of the busiest one, given what the overall usage and the
usages of the cores are; without cores the overall usage stands for the busiest one. -/
def combineUsages (overall : Int) (cores : List Int) : Except Failure CpuUsage :=
  (CpuUsage.of? overall (cores.foldl max overall)).mapError Failure.percent

namespace CpuLines

/-- The beginning of every line with CPU counters. -/
def lineStart : List Char := ['c', 'p', 'u']

/-- The counters read so far with those of one more line. -/
def addLine (found : Option CpuTicks × List CpuTicks) (line : List Char) :
    Except Failure (Option CpuTicks × List CpuTicks) := do
  if (lineStart ++ [' ']).isPrefixOf line then return (some (← CpuTicks.parse line), found.2)
  else if lineStart.isPrefixOf line then return (found.1, found.2 ++ [← CpuTicks.parse line])
  else return found

/-- The counters in a text, the last overall line counting. -/
def parse (text : List Char) : Except Failure CpuLines := do
  let (overall, cores) ← (Text.lines text).foldlM addLine (none, [])
  match overall with
  | none => .error .missingOverallCpu
  | some overall => .ok ⟨overall, cores⟩

def usage (earlier later : CpuLines) : Except Failure CpuUsage := do
  let overall ← CpuTicks.usage earlier.overall later.overall
  let cores ←
    if later.cores.length = earlier.cores.length then
      (earlier.cores.zip later.cores).mapM fun (e, l) => CpuTicks.usage e l
    else .ok []
  combineUsages overall cores

end CpuLines

end HostWatch
