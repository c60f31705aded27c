/-
**The course of a service in time.**

A timeline follows a service, a clock and the world in which the tasks act. A `Conduct` says what the
tasks do to the world: how long a run takes when it begins, and what happens when it ends. The thread
sleeps until the first task of the agenda is due, begins it, and is done with it when its run ends; it ends
before a run when it was signalled to stop, or when nothing is to run. A sleep ends at the reading of the
clock that was foreseen when it began, also when the clock is set in the meantime.

Two things are simpler here than on a thread. A sleep of any length ends, while a thread refuses one that is longer
than the greatest time-out of its system. And the look at the signal and the beginning of a run are one turn, so
that a stop comes before both or after both; one that comes between them is one that comes just after the beginning.

* `Timeline.turn?` is the next thing that the thread does up to a reading of the clock, if there is one.
* `Timeline.runUntil` lets the thread do all of them.
-/
import HostWatch.Service.Background

namespace HostWatch

/-- A service, the clock and the world. -/
structure Timeline (A W : Type) where
  service : Background A
  /-- The clock, in milliseconds. -/
  clock : Int
  /-- The world in which the tasks act. -/
  world : W

/-- What the tasks of a service do. -/
structure Conduct (A W : Type) where
  /-- How long the run of a task takes that begins at a reading of the clock, and the world from then on. -/
  begin : Task A → Int → W → Int × W
  /-- How the run of a task comes out that ended at a reading of the clock, and the service and the world
  from then on. -/
  finish : Task A → Int → Background A × W → Except Failure Unit × Background A × W

namespace Timeline

variable {A W : Type}

/-- The thread begins a task at a reading of the clock. -/
def begin (conduct : Conduct A W) (line : Timeline A W) (start : Int) (task : Task A)
    (rest : Agenda A) : Timeline A W :=
  let (duration, world) := conduct.begin task start line.world
  ⟨line.service.begin task rest (start + duration), start, world⟩

/-- The run of a task ends, well or not. -/
def finish (conduct : Conduct A W) (line : Timeline A W) (task : Task A) (ending : Int) :
    Timeline A W :=
  let clock := max line.clock ending
  let (_, service, world) := conduct.finish task clock (line.service, line.world)
  ⟨service.conclude task clock, clock, world⟩

def stop (line : Timeline A W) : Timeline A W := { line with service := line.service.finish }

/-- What the thread does next up to a reading of the clock, if there is something. -/
def turn? (conduct : Conduct A W) (limit : Int) (line : Timeline A W) : Option (Timeline A W) :=
  match line.service.runner with
  | .absent => none
  | .ended => none
  | .running task ending =>
    if ending ≤ limit then some (line.finish conduct task ending) else none
  | .waiting =>
    match line.service.stopRequested, line.service.agenda with
    | true, _ => some line.stop
    | false, [] => some line.stop
    | false, task :: rest =>
      let wait := line.service.scale.wait line.clock task.due
      if 0 < wait then some { line with service := line.service.sleep (line.clock + wait) }
      else some (line.begin conduct line.clock task rest)
  | .sleeping ending =>
    match line.service.stopRequested, line.service.agenda with
    | true, _ => some line.stop
    | false, [] => some line.stop
    | false, task :: rest =>
      if ending ≤ limit then some (line.begin conduct (max line.clock ending) task rest) else none

/-- At most so many turns of the thread up to a reading of the clock. -/
def turns (conduct : Conduct A W) (limit : Int) (line : Timeline A W) : Nat → Timeline A W
  | 0 => line
  | bound + 1 =>
    match line.turn? conduct limit with
    | none => line
    | some next => next.turns conduct limit bound

/-- A bound on the turns up to a reading of the clock, for tasks that are at least a millisecond apart: each
millisecond sees a sleep, the beginning and the end of a run of each task, and the thread ends once. -/
def turnBound (line : Timeline A W) (limit : Int) : Nat :=
  3 * ((limit - line.clock).toNat + 1) * (line.service.agenda.length + 2) + 4

/-- All turns of the thread up to a reading of the clock, to which the clock then moves. -/
def runUntil (conduct : Conduct A W) (line : Timeline A W) (limit : Int) : Timeline A W :=
  { line.turns conduct limit (line.turnBound limit) with clock := limit }

/-- The turns that are possible without a change of the clock; a thread that sleeps is woken only by the
signal to stop. -/
def settle (conduct : Conduct A W) (line : Timeline A W) : Timeline A W :=
  match line.service.runner with
  | .sleeping _ => if line.service.stopRequested then line.stop else line
  | _ => line.runUntil conduct line.clock

end Timeline

end HostWatch
