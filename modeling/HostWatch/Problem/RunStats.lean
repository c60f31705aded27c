/-
**Runs of high values.**

Over a window of values, a run is a block of consecutive values at or above a threshold. The longest run
counts, the oldest one of equally long ones, and only if it is as long as required.

* `RunStats.of` computes the length and the average of this run, and those of the whole window.
-/
import HostWatch.Number

namespace HostWatch

/-- A run: how many values it has, and their sum. -/
structure Run where
  length : Nat
  total : Int
deriving DecidableEq

namespace Run

/-- The run of no values. -/
def none : Run := ⟨0, 0⟩

def extend (run : Run) (value : Int) : Run := ⟨run.length + 1, run.total + value⟩

/-- The average of a run, rounded down, and zero for the run of no values. -/
def average (run : Run) : Int := run.total / run.length

/-- The longest run of the values that are left, given the run that they continue and the longest one
so far. -/
def longestFrom (threshold : Int) (current best : Run) : List Int → Run
  | [] => best
  | value :: rest =>
    if threshold ≤ value then
      let longer := current.extend value
      longestFrom threshold longer (if best.length < longer.length then longer else best) rest
    else longestFrom threshold none best rest

/-- The longest run of values at or above a threshold, the oldest one of equally long ones. -/
def longest (threshold : Int) (values : List Int) : Run := longestFrom threshold none none values

/-- The longest run if it is long enough, and the run of no values otherwise. -/
def longestOf (threshold required : Int) (values : List Int) : Run :=
  let run := longest threshold values
  if run.length < required then none else run

end Run

/-- What is known of a window of values. -/
structure RunStats where
  /-- How long the window is, in seconds. -/
  windowSeconds : Binary64
  average : Int
  run : Run
  /-- How long the run is, in seconds. -/
  runSeconds : Binary64

namespace RunStats

/-- The statistics of a window of values that are some seconds apart. -/
def of (values : List Int) (threshold required : Int) (interval : Binary64) : RunStats :=
  let run := Run.longestOf threshold required values
  if values.isEmpty then ⟨.zero false, 0, .none, .zero false⟩
  else
    ⟨(Binary64.ofInt values.length).mul interval, values.foldr (· + ·) 0 / values.length, run,
      (Binary64.ofInt run.length).mul interval⟩

/-- Whether there is a run that counts. -/
def triggered (stats : RunStats) : Bool := 0 < stats.run.length

end RunStats

/-- A number of samples as a time, given the time between two samples in seconds. -/
def samplesInSeconds (samples : Int) (interval : Binary64) : Except ArithmeticFault Binary64 := do
  let count ← Binary64.ofInteger samples
  return count.mul interval

end HostWatch
