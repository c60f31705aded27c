/-
**Garbage collections.**

Each collection of a generation begins and ends with an event. An end counts together with the last
beginning of its generation; one without a beginning, or of a generation beyond the last one, does not
count. A negative number counts the generations from behind, and fails when there are not so many. After a
full collection, one that is named as the last generation, the resident memory is noted.

* `Collections.event` takes in one event.
* `totalMillis` is the time spent, and zero while the events are not watched.
-/
import HostWatch.Clock
import HostWatch.Host.Readings
import HostWatch.KeyedList

namespace HostWatch

/-- What is known of the collections of one generation. -/
structure Generation where
  count : Nat
  /-- The time spent, in nanoseconds. -/
  nanos : Int
deriving DecidableEq

/-- What is known of all collections. -/
structure Collections where
  /-- When the collections that have begun began, by generation, in nanoseconds. -/
  begun : List (Int × Int)
  generations : List Generation
  /-- The resident memory after the last full collection. -/
  residentAfterFull : Option Int
  inspects : Bool
  watching : Bool

namespace Generation

/-- A generation with one more collection. -/
def extend (generation : Generation) (nanos : Int) : Generation :=
  ⟨generation.count + 1, generation.nanos + nanos⟩

/-- The time spent on a generation, in whole milliseconds. -/
def millis (generation : Generation) : Int := generation.nanos / nanosPerMilli

end Generation

namespace Collections

def generationCount : Nat := 3

/-- No collections, and no watch on them. -/
def unwatched : Collections :=
  ⟨[], List.replicate generationCount ⟨0, 0⟩, none, false, false⟩

/-- Begins to watch the events; whether the process can be inspected shows when the watch begins. -/
def watch (collections : Collections) (host : Host) : Collections :=
  if collections.watching then collections
  else { collections with
    inspects := collections.inspects || !host.processHidden
    watching := true }

def unwatch (collections : Collections) : Collections := { collections with watching := false }

/-- Takes in the beginning of a collection. -/
def beginning (collections : Collections) (generation clock : Int) : Collections :=
  { collections with begun := KeyedList.set generation clock collections.begun }

/-- The place of a generation, nothing beyond the last one. -/
def placeOf (generation : Int) : Except Failure (Option Nat) :=
  if generationCount ≤ generation then .ok none
  else if 0 ≤ generation then .ok (some generation.toNat)
  else if 0 ≤ generation + generationCount then .ok (some (generation + generationCount).toNat)
  else .error .unknownGeneration

/-- Takes in the end of a collection, which uses up its beginning. -/
def finish (collections : Collections) (generation clock : Int) (resident : Option Int) :
    Except Failure Unit × Collections :=
  match collections.begun.lookup generation with
  | none => (.ok (), collections)
  | some since =>
    let rest := { collections with begun := KeyedList.erase generation collections.begun }
    match placeOf generation with
    | .error failure => (.error failure, rest)
    | .ok none => (.ok (), rest)
    | .ok (some place) => (.ok (), { rest with
        generations := rest.generations.modify place (Generation.extend · (clock - since))
        residentAfterFull :=
          if generation = generationCount - 1 ∧ rest.inspects then resident
          else rest.residentAfterFull })

/-- The word for the beginning of a collection; any other word is for its end. -/
def beginWord : String := "start"

/-- Takes in an event, if the events are watched. An event that names no generation is one of the first
generation. -/
def event (collections : Collections) (phase : String) (generation : Option Int) (clock : Int)
    (resident : Option Int) : Except Failure Unit × Collections :=
  let number := generation.getD 0
  if !collections.watching then (.ok (), collections)
  else if phase = beginWord then (.ok (), collections.beginning number clock)
  else collections.finish number clock resident

/-- The time spent on all generations, in milliseconds, and zero while the events are not watched. -/
def totalMillis (collections : Collections) : Int :=
  if collections.watching then (collections.generations.map Generation.millis).foldr (· + ·) 0 else 0

end Collections

/-- The time spent on garbage collections up to a moment. -/
structure CollectionTime where
  /-- The time spent, in milliseconds. -/
  spent : Int
  /-- The moment, in milliseconds. -/
  time : Int
deriving DecidableEq

namespace CollectionTime

def toText (t : CollectionTime) : String := s!"({t.spent}, {t.time})"

/-- The integers in the text of a capture. -/
def integers (t : CollectionTime) : List Int := [t.spent, t.time]

/-- The share of time spent between two moments; there is none where no time passed. -/
def usage (earlier later : CollectionTime) : Except Failure CpuUsage :=
  let passed := later.time - earlier.time
  let spent := later.spent - earlier.spent
  if passed ≤ 0 then .ok .idle
  else if spent < 0 then
    .error (.doesNotPrecede "m1" earlier.toText later.toText (earlier.integers ++ later.integers))
  else .ok (.single (spent * 100 / passed))

end CollectionTime

end HostWatch
