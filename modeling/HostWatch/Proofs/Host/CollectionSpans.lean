/-
**Collections are counted by their spans.**

A span of a generation leads from the latest of its beginnings to the end that comes next. An end without a
beginning has none, and a beginning that is followed by another one is lost. What is known of the collections after
any events are the spans of these events: how many there are, how long they took, and the resident memory at the
end of the last full one.

* `CollectionEvent`, `spans`: what can happen, and **the spans of some events**, by what stands in front of each end.
* `Collections.Accounts`: what is known of the collections is what the spans say. `Accounts.take`: **each event keeps
  it so.**
* `Collections.totalMillis_mono`: the time spent does not fall while the clock does not go back.
* `CollectionTally`, `Collections.run_tallies`: **what watched collections come to**, and what a meter of the time
  spent on them shows.
-/

import HostWatch.Host.CpuMeter
import HostWatch.Proofs.Host.Gauge
import Mathlib.Algebra.Order.BigOperators.Group.List
import Mathlib.Algebra.Ring.Int.Defs
import Mathlib.Data.List.Induction

namespace HostWatch

/-! ### Events and spans -/

/-- An event of a garbage collection. -/
structure CollectionEvent where
  phase : String
  /-- The generation, if the event names one. -/
  generation? : Option Int
  /-- The clock, in nanoseconds. -/
  clock : Int
  /-- The resident memory, if it can be read. -/
  resident : Option Int

namespace CollectionEvent

/-- The number of the generation; an event that names none is one of the first generation. -/
def number (event : CollectionEvent) : Int := event.generation?.getD 0

def begins (generation : Int) (event : CollectionEvent) : Bool :=
  event.number = generation && event.phase = Collections.beginWord

def ends (generation : Int) (event : CollectionEvent) : Bool :=
  event.number = generation && event.phase ≠ Collections.beginWord

end CollectionEvent

/-- A collection from its beginning to its end, with the resident memory then. -/
structure CollectionSpan where
  beginning : Int
  ending : Int
  resident : Option Int

def CollectionSpan.nanos (span : CollectionSpan) : Int := span.ending - span.beginning

/-- The latest beginning of a generation since its last end. -/
def openedAt? (generation : Int) (events : List CollectionEvent) : Option Int :=
  ((events.reverse.takeWhile fun event => !event.ends generation).find? fun event =>
    event.begins generation).map CollectionEvent.clock

/-- The span of a generation that an event ends, given what stands in front of it. -/
def spanAt? (generation : Int) (before : List CollectionEvent) (event : CollectionEvent) : Option CollectionSpan :=
  if event.ends generation then
    (openedAt? generation before).map fun beginning => ⟨beginning, event.clock, event.resident⟩
  else none

/-- **The spans of a generation**: its ends, each with the latest beginning since the end before, if there is one. -/
def spans (generation : Int) (events : List CollectionEvent) : List CollectionSpan :=
  events.zipIdx.filterMap fun (event, place) => spanAt? generation (events.take place) event

/-- What the spans of a generation come to. -/
def tally (events : List CollectionEvent) (generation : Nat) : Generation :=
  ⟨(spans generation events).length, ((spans generation events).map CollectionSpan.nanos).sum⟩

section Spans

variable (generation : Int) (events : List CollectionEvent) {event : CollectionEvent}

theorem openedAt?_concat (event : CollectionEvent) :
    openedAt? generation (events ++ [event]) =
      if event.ends generation then none
      else if event.begins generation then some event.clock
      else openedAt? generation events := by
  unfold openedAt?
  rw [List.reverse_append, List.reverse_singleton, List.singleton_append, List.takeWhile_cons]
  cases event.ends generation with
  | true => rfl
  | false =>
    show (List.find? _ (event :: _)).map _ = _
    rw [List.find?_cons]
    cases event.begins generation <;> rfl

theorem spans_concat (event : CollectionEvent) :
    spans generation (events ++ [event]) = spans generation events ++ (spanAt? generation events event).toList := by
  unfold spans
  rw [List.zipIdx_append, List.filterMap_append]
  congr 1
  -- What stands in front of an event does not hang on what follows.
  · refine List.filterMap_congr fun (other, place) member => ?_
    have le : place ≤ events.length := by
      have := List.snd_lt_of_mem_zipIdx member
      omega
    show spanAt? _ ((events ++ [event]).take place) other = spanAt? _ (events.take place) other
    rw [List.take_append_of_le_length le]
  · have front : (events ++ [event]).take (0 + events.length) = events := by rw [Nat.zero_add, List.take_left]
    show [(event, 0 + events.length)].filterMap _ = _
    rw [List.filterMap_cons, List.filterMap_nil]
    dsimp only
    rw [front]
    cases spanAt? generation events event <;> rfl

/-! An event is a beginning, or an end. -/

theorem openedAt?_concat_of_begin (begins : event.phase = Collections.beginWord) :
    openedAt? generation (events ++ [event]) =
      if generation = event.number then some event.clock else openedAt? generation events := by
  rw [openedAt?_concat]
  simp [CollectionEvent.ends, CollectionEvent.begins, begins, eq_comm]

theorem openedAt?_concat_of_end (ends : event.phase ≠ Collections.beginWord) :
    openedAt? generation (events ++ [event]) =
      if generation = event.number then none else openedAt? generation events := by
  rw [openedAt?_concat]
  simp [CollectionEvent.ends, CollectionEvent.begins, ends, eq_comm]

theorem spanAt?_of_begin (begins : event.phase = Collections.beginWord) :
    spanAt? generation events event = none := by
  simp [spanAt?, CollectionEvent.ends, begins]

theorem spanAt?_of_end (ends : event.phase ≠ Collections.beginWord) :
    spanAt? generation events event =
      if event.number = generation then
        (openedAt? generation events).map fun beginning => ⟨beginning, event.clock, event.resident⟩
      else none := by
  simp [spanAt?, CollectionEvent.ends, ends]

theorem openedAt?_eq_some {generation : Int} {events : List CollectionEvent} {beginning : Int}
    (opened : openedAt? generation events = some beginning) :
    ∃ event ∈ events, event.clock = beginning := by
  obtain ⟨event, found, is⟩ := Option.map_eq_some_iff.1 opened
  have member := (List.takeWhile_sublist _).subset (List.mem_of_find?_eq_some found)
  exact ⟨event, List.mem_reverse.1 member, is⟩

/-- No span takes less than no time while the clock does not go back. -/
theorem nanos_nonneg {generation : Int} {before : List CollectionEvent} {event : CollectionEvent}
    {span : CollectionSpan} (ended : spanAt? generation before event = some span)
    (latest : ∀ other ∈ before, other.clock ≤ event.clock) : 0 ≤ span.nanos := by
  unfold spanAt? at ended
  split at ended
  · obtain ⟨beginning, opened, rfl⟩ := Option.map_eq_some_iff.1 ended
    obtain ⟨other, member, rfl⟩ := openedAt?_eq_some opened
    have := latest other member
    show 0 ≤ event.clock - other.clock
    omega
  · cases ended

end Spans

/-! ### One event -/

namespace Collections

def take (collections : Collections) (event : CollectionEvent) : Except Failure Unit × Collections :=
  collections.event event.phase event.generation? event.clock event.resident

/-- What is known after some events. -/
def run (collections : Collections) (events : List CollectionEvent) : Collections :=
  events.foldl (fun collections event => (collections.take event).2) collections

theorem run_append (collections : Collections) (first second : List CollectionEvent) :
    collections.run (first ++ second) = (collections.run first).run second :=
  List.foldl_append

/-- The collections of a host from the moment on when they are watched. -/
def watched (host : Host) : Collections := unwatched.watch host

/-- **The invariant**: what is known of the collections, in terms of the spans of the events so far. -/
structure Accounts (inspects : Bool) (events : List CollectionEvent) (collections : Collections) : Prop where
  watching : collections.watching = true
  inspects_eq : collections.inspects = inspects
  begun : ∀ generation, collections.begun.lookup generation = openedAt? generation events
  generations_eq : collections.generations = (List.range generationCount).map (tally events)
  resident_eq : collections.residentAfterFull =
    if inspects then (spans (generationCount - 1) events).getLast?.bind CollectionSpan.resident else none

theorem accounts_watch (host : Host) : (watched host).Accounts (!host.processHidden) [] where
  watching := rfl
  inspects_eq := rfl
  begun _ := rfl
  generations_eq := rfl
  resident_eq := by split <;> rfl

section Take

variable {inspects : Bool} {events : List CollectionEvent} {collections : Collections} {event : CollectionEvent}

theorem tally_concat_of_none {generation : Nat} (none : spanAt? generation events event = none) :
    tally (events ++ [event]) generation = tally events generation := by
  unfold tally
  rw [spans_concat, none, Option.toList_none, List.append_nil]

theorem tally_concat_of_some {generation : Nat} {span : CollectionSpan}
    (some : spanAt? generation events event = some span) :
    tally (events ++ [event]) generation = (tally events generation).extend span.nanos := by
  unfold tally Generation.extend
  rw [spans_concat, some, Option.toList_some, List.length_append, List.map_append, List.sum_append]
  simp

/-- The tallies after one of them grew. -/
theorem modify_tallies {place : Nat} {span : CollectionSpan}
    (ended : spanAt? place events event = some span)
    (others : ∀ generation : Nat, generation ≠ place → spanAt? generation events event = none) :
    ((List.range generationCount).map (tally events)).modify place (Generation.extend · span.nanos) =
      (List.range generationCount).map (tally (events ++ [event])) := by
  refine List.ext_getElem (by simp) fun generation _ _ => ?_
  rw [List.getElem_modify, List.getElem_map, List.getElem_map, List.getElem_range]
  split
  · rename_i same
    rw [← same, tally_concat_of_some ended]
  · rename_i apart
    rw [tally_concat_of_none (others generation (Ne.symm apart))]

/-- An event that ends no span of a known generation leaves all but the beginnings alone. -/
theorem Accounts.concat (accounts : collections.Accounts inspects events)
    (none : ∀ generation : Nat, generation < generationCount → spanAt? generation events event = none)
    {begun : List (Int × Int)}
    (opened : ∀ generation, begun.lookup generation = openedAt? generation (events ++ [event])) :
    ({ collections with begun := begun } : Collections).Accounts inspects (events ++ [event]) where
  watching := accounts.watching
  inspects_eq := accounts.inspects_eq
  begun := opened
  generations_eq := by
    rw [accounts.generations_eq]
    exact List.map_congr_left fun generation member =>
      (tally_concat_of_none (none generation (List.mem_range.1 member))).symm
  resident_eq := by
    have last : spanAt? (generationCount - 1) events event = Option.none := none (generationCount - 1) (by decide)
    rw [accounts.resident_eq, spans_concat, last, Option.toList_none, List.append_nil]

/-- A beginning takes the place of the one before. -/
theorem Accounts.beginning (accounts : collections.Accounts inspects events) (begins : event.phase = beginWord) :
    (collections.beginning event.number event.clock).Accounts inspects (events ++ [event]) := by
  refine accounts.concat (fun generation _ => spanAt?_of_begin generation events begins) fun generation => ?_
  rw [KeyedList.lookup_set, openedAt?_concat_of_begin generation events begins, accounts.begun]

section Finish

variable (accounts : collections.Accounts inspects events) (ends : event.phase ≠ beginWord)
include accounts ends

theorem Accounts.lookup_erase (generation : Int) :
    (KeyedList.erase event.number collections.begun).lookup generation =
      openedAt? generation (events ++ [event]) := by
  rw [KeyedList.lookup_erase, openedAt?_concat_of_end generation events ends, accounts.begun]

/-- The end of a collection of a known generation that has begun. -/
theorem Accounts.finish_counted {beginning : Int} {place : Nat} (same : event.number = place)
    (opened : openedAt? place events = some beginning) :
    ({ collections with
        begun := KeyedList.erase event.number collections.begun
        generations := collections.generations.modify place (Generation.extend · (event.clock - beginning))
        residentAfterFull :=
          if event.number = generationCount - 1 ∧ collections.inspects then event.resident
          else collections.residentAfterFull } : Collections).Accounts inspects (events ++ [event]) := by
  have ended : spanAt? place events event = some ⟨beginning, event.clock, event.resident⟩ := by
    rw [spanAt?_of_end _ events ends, if_pos same, opened]
    rfl
  have others (generation : Int) (apart : generation ≠ place) : spanAt? generation events event = none := by
    rw [spanAt?_of_end _ events ends, if_neg fun eq => apart (eq.symm.trans same)]
  refine ⟨accounts.watching, accounts.inspects_eq, accounts.lookup_erase ends, ?_, ?_⟩
  · show collections.generations.modify place _ = _
    rw [accounts.generations_eq]
    exact modify_tallies ended fun generation apart => others generation (by omega)
  · show (if event.number = generationCount - 1 ∧ collections.inspects = true then _ else _) = _
    rw [accounts.inspects_eq, accounts.resident_eq, spans_concat]
    by_cases full : (place : Int) = generationCount - 1
    · rw [← full, ended, Option.toList_some, List.getLast?_concat]
      cases inspects <;> simp [same]
    · rw [others _ (Ne.symm full), if_neg fun both => full (same.symm.trans both.1), Option.toList_none,
        List.append_nil]

/-- An end counts with the last beginning of its generation, and uses it up. -/
theorem Accounts.finish (nonneg : 0 ≤ event.number) :
    (collections.finish event.number event.clock event.resident).1 = .ok () ∧
      (collections.finish event.number event.clock event.resident).2.Accounts inspects (events ++ [event]) := by
  unfold Collections.finish
  cases opened : openedAt? event.number events with
  | none =>
    rw [accounts.begun, opened]
    refine ⟨rfl, accounts.concat (fun generation _ => ?_) fun generation => ?_⟩
    · rw [spanAt?_of_end _ events ends]
      split
      · rename_i same
        rw [← same, opened]
        rfl
      · rfl
    · rw [accounts.begun, openedAt?_concat_of_end generation events ends]
      split
      · rename_i same
        rw [same, opened]
      · rfl
  | some beginning =>
    rw [accounts.begun, opened]
    dsimp only
    unfold placeOf
    by_cases beyond : (generationCount : Int) ≤ event.number
    · rw [if_pos beyond]
      refine ⟨rfl, accounts.concat (fun generation _ => ?_) (accounts.lookup_erase ends)⟩
      rw [spanAt?_of_end _ events ends, if_neg (by omega)]
    · rw [if_neg beyond, if_pos nonneg]
      have same : event.number = event.number.toNat := by omega
      exact ⟨rfl, accounts.finish_counted ends same (same ▸ opened)⟩

end Finish

theorem take_of_watching (watching : collections.watching = true) (event : CollectionEvent) :
    collections.take event =
      if event.phase = beginWord then (.ok (), collections.beginning event.number event.clock)
      else collections.finish event.number event.clock event.resident := by
  unfold Collections.take Collections.event
  rw [watching]
  rfl

/-- **Each event keeps the invariant**, and none fails. -/
theorem Accounts.take (accounts : collections.Accounts inspects events) (nonneg : 0 ≤ event.number) :
    (collections.take event).1 = .ok () ∧ (collections.take event).2.Accounts inspects (events ++ [event]) := by
  rw [take_of_watching accounts.watching]
  by_cases begins : event.phase = beginWord
  · rw [if_pos begins]
    exact ⟨rfl, accounts.beginning begins⟩
  · rw [if_neg begins]
    exact accounts.finish begins nonneg

end Take

/-! ### All events -/

section Run

variable (host : Host) {events : List CollectionEvent} (known : ∀ event ∈ events, 0 ≤ event.number)
include known

/-- **Every run of events keeps the invariant.** -/
theorem accounts_run : ((watched host).run events).Accounts (!host.processHidden) events := by
  induction events using List.reverseRecOn with
  | nil => exact accounts_watch host
  | append_singleton events event ih =>
    obtain ⟨before, last⟩ := List.forall_mem_append.1 known
    rw [run_append]
    exact ((ih before).take (last event (List.mem_singleton_self event))).2

/-- The time spent is that of the spans, each generation in whole milliseconds. -/
theorem totalMillis_run : ((watched host).run events).totalMillis =
    ((List.range generationCount).map fun generation => (tally events generation).millis).sum := by
  have accounts := accounts_run host known
  unfold totalMillis
  rw [if_pos accounts.watching, accounts.generations_eq, List.map_map]
  rfl

end Run

/-- The time that the spans of all generations took together, in nanoseconds. -/
def exactNanos (events : List CollectionEvent) : Int :=
  ((List.range generationCount).map fun generation => (tally events generation).nanos).sum

/-- Whole milliseconds leave out less than a millisecond of each figure. -/
theorem sum_millis_bounds (figures : List Generation) :
    (figures.map Generation.millis).sum * nanosPerMilli ≤ (figures.map Generation.nanos).sum ∧
      (figures.map Generation.nanos).sum ≤
        (figures.map Generation.millis).sum * nanosPerMilli + figures.length * (nanosPerMilli - 1) := by
  induction figures with
  | nil => exact ⟨Int.le_refl _, Int.le_refl _⟩
  | cons figure figures ih =>
    simp only [List.map_cons, List.sum_cons, List.length_cons, Generation.millis, nanosPerMilli] at ih ⊢
    omega

/-- An event takes no time away while the clock does not go back. -/
theorem nanos_tally_concat {events : List CollectionEvent} {event : CollectionEvent}
    (latest : ∀ other ∈ events, other.clock ≤ event.clock) (generation : Nat) :
    (tally events generation).nanos ≤ (tally (events ++ [event]) generation).nanos := by
  cases ended : spanAt? generation events event with
  | none => rw [tally_concat_of_none ended]
  | some span =>
    have nonneg := nanos_nonneg ended latest
    rw [tally_concat_of_some ended]
    show _ ≤ (tally events generation).nanos + span.nanos
    omega

/-- **The time spent does not fall** while the clock does not go back. -/
theorem totalMillis_mono {host : Host} {events more : List CollectionEvent}
    (known : ∀ event ∈ events ++ more, 0 ≤ event.number)
    (clocks : (events ++ more).Pairwise fun earlier later => earlier.clock ≤ later.clock) :
    ((watched host).run events).totalMillis ≤ ((watched host).run (events ++ more)).totalMillis := by
  induction more using List.reverseRecOn with
  | nil => rw [List.append_nil]
  | append_singleton more event ih =>
    rw [← List.append_assoc] at known clocks ⊢
    obtain ⟨clocks, -, latest⟩ := List.pairwise_append.1 clocks
    refine Int.le_trans (ih (List.forall_mem_append.1 known).1 clocks) ?_
    rw [totalMillis_run host known, totalMillis_run host (List.forall_mem_append.1 known).1]
    refine List.sum_le_sum fun generation _ => Int.ediv_le_ediv (by decide) ?_
    exact nanos_tally_concat (fun other member => latest other member event (List.mem_singleton_self _)) generation

end Collections

/-! ### The meter of the time spent -/

/-- What happens between two readings of a meter: some events, and time up to the second reading. -/
structure CollectionRound where
  events : List CollectionEvent
  /-- The clock at the reading, in milliseconds. -/
  clock : Int

def CollectionRound.change (round : CollectionRound) (machine : Machine) : Machine :=
  { machine with
    collections := machine.collections.map (·.run round.events)
    host := { machine.host with clock := round.clock } }

def allEvents (rounds : List CollectionRound) : List CollectionEvent := rounds.flatMap CollectionRound.events

theorem allEvents_concat (rounds : List CollectionRound) (round : CollectionRound) :
    allEvents (rounds ++ [round]) = allEvents rounds ++ round.events := by
  unfold allEvents
  rw [List.flatMap_append, List.flatMap_singleton]

/-- The share of the time that passed; there is none where no time passed. -/
def collectionShare (spent passed : Int) : CpuUsage := if passed ≤ 0 then .idle else .single (spent * 100 / passed)

namespace CpuMeasure

open Stateful

def collectionGauge : CpuGauge (Stateful Machine) CollectionTime := collections.gauge

section Shared

variable {machine : Machine} {watching : Collections} (shared : machine.collections = some watching)
include shared

theorem run_capture_collections : collectionGauge.capture.run.run machine =
    (.ok (some (⟨watching.totalMillis, machine.host.clock⟩ : CollectionTime)), machine) := by
  have known : sharedCollections.run.run machine = (.ok watching, machine) := Probe.run_once_of_known _ _ shared
  exact run_bind_of_ok known fun watching => do
    return some (⟨watching.totalMillis, (← Probe.host).clock⟩ : CollectionTime)

theorem world_read_collections (previous : Option CollectionTime) :
    ((collectionGauge.read previous).run.run machine).2 = machine := by
  refine CpuGauge.world_read (by rw [run_capture_collections shared]) (fun earlier later => ?_) previous
  exact congrArg Prod.snd (Probe.run_ofExcept (CollectionTime.usage earlier later) machine)

theorem occasion_collections : Occasion.of collectionGauge machine =
    ⟨.ok (some (⟨watching.totalMillis, machine.host.clock⟩ : CollectionTime)), CollectionTime.usage⟩ := by
  unfold Occasion.of
  rw [run_capture_collections shared]
  congr 1
  funext earlier later
  exact congrArg Prod.fst (Probe.run_ofExcept (CollectionTime.usage earlier later) machine)

end Shared

/-- What the last of some rounds leaves for the next reading. -/
def lastCapture (watching : Collections) (rounds : List CollectionRound) : Option CollectionTime :=
  rounds.getLast?.map fun last => ⟨(watching.run (allEvents rounds)).totalMillis, last.clock⟩

theorem pass_change {machine : Machine} {watching : Collections} (shared : machine.collections = some watching)
    (round : CollectionRound) : (round.change machine).collections = some (watching.run round.events) := by
  show machine.collections.map _ = _
  rw [shared]
  rfl

/-- **What rounds of a meter leave behind**: the collections after all events, and the last capture. -/
theorem run_rounds {machine : Machine} {watching : Collections} (shared : machine.collections = some watching)
    (rounds : List CollectionRound) : ∃ world,
      (GaugeScene.of collectionGauge machine).run (rounds.map CollectionRound.change) =
        ⟨collectionGauge, lastCapture watching rounds, world⟩ ∧
      world.collections = some (watching.run (allEvents rounds)) := by
  induction rounds using List.reverseRecOn with
  | nil => exact ⟨machine, rfl, shared⟩
  | append_singleton rounds round ih =>
    obtain ⟨world, scene_eq, ih⟩ := ih
    have changed := pass_change ih round
    rw [← Collections.run_append, ← allEvents_concat] at changed
    refine ⟨round.change world, ?_, changed⟩
    rw [List.map_append, List.map_singleton, GaugeScene.run_concat, scene_eq, GaugeScene.read_eq]
    show (⟨_, ((Occasion.of collectionGauge (round.change world)).reading _).previous,
      ((collectionGauge.read _).run.run (round.change world)).2⟩ : GaugeScene Machine CollectionTime) = _
    rw [world_read_collections changed, occasion_collections changed]
    unfold lastCapture
    rw [List.getLast?_concat]
    rfl

theorem answer_round {machine : Machine} {watching : Collections} (shared : machine.collections = some watching)
    (rounds : List CollectionRound) (next : CollectionRound) :
    (((GaugeScene.of collectionGauge machine).run (rounds.map CollectionRound.change)).pass next.change).read.1 =
      .ok (match lastCapture watching rounds with
        | none => some .idle
        | some earlier => (CollectionTime.usage earlier
            ⟨(watching.run (allEvents (rounds ++ [next]))).totalMillis, next.clock⟩).toOption) := by
  obtain ⟨world, scene_eq, after⟩ := run_rounds shared rounds
  have changed := pass_change after next
  rw [← Collections.run_append, ← allEvents_concat] at changed
  rw [scene_eq, GaugeScene.read_eq]
  show Except.ok ((Occasion.of collectionGauge (next.change world)).reading _).usage = _
  rw [occasion_collections changed]
  show Except.ok (CpuReading.usage _) = _
  unfold Occasion.reading
  cases lastCapture watching rounds <;> rfl

end CpuMeasure

theorem CollectionTime.usage_of_le {earlier later : CollectionTime} (le : earlier.spent ≤ later.spent) :
    usage earlier later = .ok (collectionShare (later.spent - earlier.spent) (later.time - earlier.time)) := by
  have nonneg : ¬ later.spent - earlier.spent < 0 := by omega
  unfold usage collectionShare
  dsimp only
  rw [if_neg nonneg]
  split <;> rfl

/-! ### What watched collections come to -/

/-- **What the collections of a host come to** after some events. -/
structure CollectionTally (host : Host) (events : List CollectionEvent) : Prop where
  /-- No event fails. -/
  accepted : ∀ before event after, before ++ event :: after = events →
    (((Collections.watched host).run before).take event).1 = .ok ()
  /-- Of each known generation the spans are counted, and the times that they took added up. -/
  generations_eq : ((Collections.watched host).run events).generations =
    (List.range Collections.generationCount).map (tally events)
  /-- The resident memory is that at the end of the last span of the last generation. -/
  resident_eq : ((Collections.watched host).run events).residentAfterFull =
    if host.processHidden then none
    else (spans (Collections.generationCount - 1) events).getLast?.bind CollectionSpan.resident
  /-- The time spent falls short of the exact one by less than a millisecond for each generation. -/
  le_exact : ((Collections.watched host).run events).totalMillis * nanosPerMilli ≤ Collections.exactNanos events
  exact_lt : Collections.exactNanos events <
    (((Collections.watched host).run events).totalMillis + Collections.generationCount) * nanosPerMilli
  /-- It never falls. -/
  grows : ∀ before after, before ++ after = events →
    ((Collections.watched host).run before).totalMillis ≤ ((Collections.watched host).run events).totalMillis
  /-- Whenever a meter is read in between, it shows a usage: none at all at first, and then the share of the time
  spent since the reading before. -/
  shows : ∀ (machine : Machine) (rounds : List CollectionRound) (next : CollectionRound),
    machine.collections = some (Collections.watched host) → allEvents (rounds ++ [next]) = events →
    (((GaugeScene.of CpuMeasure.collectionGauge machine).run (rounds.map CollectionRound.change)).pass
      next.change).read.1 =
        .ok (some (match rounds.getLast? with
          | none => .idle
          | some last => collectionShare
              (((Collections.watched host).run events).totalMillis -
                ((Collections.watched host).run (allEvents rounds)).totalMillis)
              (next.clock - last.clock)))

/-- **Collections are counted by their spans**, however the events of the generations come: nested, again and
again, an end without a beginning, or of a generation that is not known. -/
theorem Collections.run_tallies (host : Host) {events : List CollectionEvent}
    (known : ∀ event ∈ events, 0 ≤ event.number)
    (clocks : events.Pairwise fun earlier later => earlier.clock ≤ later.clock) : CollectionTally host events := by
  have accounts := accounts_run host known
  have grows (before after : List CollectionEvent) (split : before ++ after = events) :
      ((watched host).run before).totalMillis ≤ ((watched host).run events).totalMillis := by
    subst split
    exact totalMillis_mono known clocks
  have bounds := sum_millis_bounds ((List.range generationCount).map (tally events))
  rw [List.map_map, List.map_map, List.length_map, List.length_range] at bounds
  have exact_eq : exactNanos events = ((List.range generationCount).map (Generation.nanos ∘ tally events)).sum := rfl
  have total_eq := totalMillis_run host known
  refine ⟨fun before event after split => ?_, accounts.generations_eq, ?_, ?_, ?_, grows, ?_⟩
  · subst split
    obtain ⟨front, rest⟩ := List.forall_mem_append.1 known
    exact ((accounts_run host front).take (rest event List.mem_cons_self)).1
  · rw [accounts.resident_eq]
    cases host.processHidden <;> rfl
  · rw [total_eq, exact_eq]
    exact bounds.1
  · have whole : (generationCount : Int) * (nanosPerMilli - 1) < generationCount * nanosPerMilli := by decide
    rw [total_eq, exact_eq, Int.add_mul]
    exact Int.lt_of_le_of_lt bounds.2 (Int.add_lt_add_left whole _)
  · intro machine rounds next shared all
    rw [CpuMeasure.answer_round shared, all]
    unfold CpuMeasure.lastCapture
    cases rounds.getLast? with
    | none => rfl
    | some last =>
      have le := grows (allEvents rounds) next.events ((allEvents_concat rounds next).symm.trans all)
      show Except.ok (CollectionTime.usage _ _).toOption = _
      rw [CollectionTime.usage_of_le le]
      rfl

/-- Two beginnings of a collection, its end, an end without a beginning, and a full collection behind which the
memory cannot be read. -/
def untidyEvents : List CollectionEvent :=
  [⟨"start", some 0, 0, none⟩, ⟨"start", none, 2000000, none⟩, ⟨"stop", some 0, 5500000, some 8⟩,
    ⟨"stop", some 1, 6000000, some 8⟩, ⟨"start", some 2, 7000000, none⟩, ⟨"start", some 7, 7000000, none⟩,
    ⟨"stop", some 7, 8000000, some 9⟩, ⟨"stop", some 2, 9000000, none⟩]

theorem run_tallies_untidyEvents :
    (∀ event ∈ untidyEvents, 0 ≤ event.number) ∧
      (untidyEvents.Pairwise fun earlier later => earlier.clock ≤ later.clock) ∧
      CollectionTally .bare untidyEvents ∧
      ((Collections.watched .bare).run untidyEvents).generations = [⟨1, 3500000⟩, ⟨0, 0⟩, ⟨1, 2000000⟩] := by
  have known : ∀ event ∈ untidyEvents, 0 ≤ event.number := by decide
  have clocks : untidyEvents.Pairwise fun earlier later => earlier.clock ≤ later.clock := by decide
  exact ⟨known, clocks, Collections.run_tallies .bare known clocks, by decide⟩

end HostWatch
