/-
**The counters of one process.**

The text gives the identity of the process, its name in parentheses and then columns. The name may hold
anything, parentheses too, so the columns begin behind the last closing one.

* `ProcessStat.parse` reads the counters.
-/
import HostWatch.Host.CpuLines

namespace HostWatch

/-- The counters of one process. -/
structure ProcessStat where
  user : Int
  system : Int
  residentPages : Int
deriving DecidableEq

namespace ProcessStat

/-- What stands behind the last closing parenthesis of a text and the character after it. -/
def behindName (text : List Char) : Except Failure (List Char) :=
  if text.contains ')' then .ok ((text.reverse.takeWhile (· ≠ ')')).reverse.drop 1)
  else .error .unclosedName

def parse (text : List Char) : Except Failure ProcessStat := do
  let columns := Text.words (← behindName text)
  return ⟨← CpuTicks.column columns 11, ← CpuTicks.column columns 12, ← CpuTicks.column columns 21⟩

/-- The memory in use in bytes, given the size of a page, which is negative when it is not known. -/
def residentBytes (stat : ProcessStat) (pageSize : Int) : Except Failure Int :=
  if pageSize < 0 then .error .unknownPageSize else .ok (stat.residentPages * pageSize)

end ProcessStat

end HostWatch
