/-
**Runs of a delivery.**

A run is a list of events, each of them one step of somebody: a sender that puts a set of reports into the
queue, a change of the configuration, one part of the start, one part of a stop, or a step of the worker. An
event that cannot happen changes nothing, so that every list of events is an interleaving, and every
interleaving is one. A sink that stops the delivery while events come between the parts of its stop is a
sink that does not, with the parts of the stop among the events.

* `DeliveryScene`: a delivery, with a log of what its worker took and began.
* `Delivery.WorkerEffect`, `workerEffect_of_workerStep?`: **what a step of the worker can do**, with all
  that holds when it does that.
* `DeliveryScene.Effect`, `effect_happen`: **what an event can do.** Whatever holds in every run is proved
  by cases on these two.
* `run_start`, `run_stop`: a whole start and a whole stop are runs.
-/

import HostWatch.Notice.Delivery

namespace HostWatch

/-! ### The parts of a delivery -/

/-- The set of reports in a place of the queue, if there is one. -/
@[simp] def Parcel.set? : Parcel → Option (List Report)
  | reports set => some set
  | stop => none

/-- A set of reports and the configuration with which all sinks get it. -/
structure Round where
  config : Config
  reports : List Report

/-- The round that a call of a sink belongs to. -/
def Handing.round (handing : Handing) : Round := ⟨handing.config, handing.reports⟩

/-- The calls of the first so many sinks in a round. -/
def Round.calls (round : Round) (count : Nat) : List (Nat × Round) :=
  (List.range count).map fun sink => (sink, round)

namespace Worker

/-- The set that the worker took and did not begin with. -/
@[simp] def inHand : Worker → List (List Report)
  | taken reports => [reports]
  | _ => []

/-- The round that the worker has begun and not ended. -/
@[simp] def inProgress : Worker → List Round
  | delivering config reports _ => [⟨config, reports⟩]
  | _ => []

/-- How many sinks the worker has called in the round in progress. -/
@[simp] def reached : Worker → Nat
  | delivering _ _ next => next
  | _ => 0

/-- Whether a sink was not yet called in the round in progress. -/
@[simp] def owes (worker : Worker) (sink : Nat) : Bool :=
  match worker with
  | delivering _ _ next => next ≤ sink
  | _ => false

/-- Whether the worker waits for the first place of the queue. -/
@[simp] def isWaiting : Worker → Bool
  | waiting => true
  | _ => false

end Worker

namespace Delivery

def queued (delivery : Delivery) : List (List Report) := delivery.queue.filterMap Parcel.set?

/-- The calls of sinks without how they ended. -/
def calls (delivery : Delivery) : List (Nat × Round) :=
  delivery.handed.map fun handing => (handing.sink, handing.round)

/-- The rounds in which a sink was called. -/
def roundsOf (delivery : Delivery) (sink : Nat) : List Round :=
  (delivery.handed.filter fun handing => handing.sink = sink).map Handing.round

/-- The set that the next step of the worker takes from the queue. -/
def taking (delivery : Delivery) : List (List Report) :=
  match delivery.worker, delivery.queue with
  | .waiting, .reports set :: _ => [set]
  | _, _ => []

/-- The round that the next step of the worker begins, with the configuration of this moment. -/
def beginning (delivery : Delivery) : List Round :=
  match delivery.worker with
  | .taken reports => [⟨delivery.config, reports⟩]
  | _ => []

@[simp] theorem queued_enqueue (delivery : Delivery) (reports : List Report) :
    (delivery.enqueue reports).queued = delivery.queued ++ [reports] := by
  show List.filterMap Parcel.set? (delivery.queue ++ [.reports reports]) = _
  rw [List.filterMap_append]
  rfl

@[simp] theorem queued_enqueueStop (delivery : Delivery) :
    delivery.enqueueStop.queued = delivery.queued := by
  show List.filterMap Parcel.set? (delivery.queue ++ [.stop]) = _
  rw [List.filterMap_append]
  exact List.append_nil _

/-! ### The parts of a start -/

/-- The first part of a start. -/
def beginStart (delivery : Delivery) : Delivery :=
  match delivery.stage with
  | .created => { delivery with stage := .running }
  | _ => delivery

/-- The second part of a start, once the first one is done. -/
def launch (delivery : Delivery) : Delivery :=
  match delivery.stage, delivery.worker with
  | .created, _ => delivery
  | _, .absent => { delivery with worker := .checking }
  | _, _ => delivery

/-! ### What a step of the worker can do -/

/-- What a step of the worker does, with all that holds when it does that. -/
inductive WorkerEffect (delivery : Delivery) : Delivery → Prop where
  | leave (place : delivery.worker = .checking) (signalled : delivery.stopping = true) :
      WorkerEffect delivery { delivery with worker := .gone }
  /-- It sees no signal. -/
  | await (place : delivery.worker = .checking) (unsignalled : delivery.stopping = false) :
      WorkerEffect delivery { delivery with worker := .waiting }
  | takeMark (rest : List Parcel) (place : delivery.worker = .waiting)
      (front : delivery.queue = .stop :: rest) :
      WorkerEffect delivery { delivery with queue := rest, worker := .gone }
  | takeSet (reports : List Report) (rest : List Parcel) (place : delivery.worker = .waiting)
      (front : delivery.queue = .reports reports :: rest) :
      WorkerEffect delivery { delivery with queue := rest, worker := .taken reports }
  /-- It begins a round. -/
  | begin (reports : List Report) (place : delivery.worker = .taken reports) :
      WorkerEffect delivery { delivery with worker := .delivering delivery.config reports 0 }
  /-- It calls a sink, which may fail. -/
  | call (config : Config) (reports : List Report) (next : Nat) (failure? : Option Failure)
      (place : delivery.worker = .delivering config reports next)
      (more : next < delivery.sinks.length) :
      WorkerEffect delivery { delivery with
        handed := delivery.handed ++ [⟨next, config, reports, failure?⟩]
        worker := .delivering config reports (next + 1) }
  /-- It calls a sink, which stops the delivery. -/
  | callStopping (config : Config) (reports : List Report) (next : Nat) (failure? : Option Failure)
      (place : delivery.worker = .delivering config reports next)
      (more : next < delivery.sinks.length) (running : delivery.stage = .running) :
      WorkerEffect delivery { delivery with
        handed := delivery.handed ++ [⟨next, config, reports, failure?⟩]
        stage := .stopped
        stopping := true
        queue := delivery.queue ++ [.stop]
        worker := .delivering config reports (next + 1) }
  /-- It ends a round. -/
  | finish (config : Config) (reports : List Report) (next : Nat)
      (place : delivery.worker = .delivering config reports next)
      (all : delivery.sinks.length ≤ next) :
      WorkerEffect delivery { delivery with worker := .checking }

/-- A call of a sink is one of two effects, whatever the sink does. -/
theorem workerEffect_hand {delivery : Delivery} {config : Config} {reports : List Report} {next : Nat}
    (place : delivery.worker = .delivering config reports next) (more : next < delivery.sinks.length) :
    WorkerEffect delivery
      { delivery.hand config reports next with worker := .delivering config reports (next + 1) } := by
  unfold hand
  rw [List.getElem?_eq_getElem more]
  dsimp only
  generalize delivery.sinks[next] (delivery.callsOf next + 1) config reports = reaction
  split
  · unfold stop
    split
    · rename_i running
      exact .callStopping config reports next reaction.failure? place more (of_decide_eq_true running)
    · exact .call config reports next reaction.failure? place more
  · exact .call config reports next reaction.failure? place more

/-- **What a step of the worker can do.** -/
theorem workerEffect_of_workerStep? {delivery after : Delivery}
    (step : delivery.workerStep? = some after) : WorkerEffect delivery after := by
  unfold workerStep? at step
  cases place : delivery.worker with
  | absent => simp [place] at step
  | gone => simp [place] at step
  | checking =>
    cases signal : delivery.stopping with
    | false =>
      obtain rfl : { delivery with worker := .waiting } = after := by simpa [place, signal] using step
      exact .await place signal
    | true =>
      obtain rfl : { delivery with worker := .gone } = after := by simpa [place, signal] using step
      exact .leave place signal
  | waiting =>
    cases front : delivery.queue with
    | nil => simp [place, front] at step
    | cons parcel rest =>
      cases parcel with
      | reports reports =>
        obtain rfl : { delivery with queue := rest, worker := .taken reports } = after := by
          simpa [place, front] using step
        exact .takeSet reports rest place front
      | stop =>
        obtain rfl : { delivery with queue := rest, worker := .gone } = after := by
          simpa [place, front] using step
        exact .takeMark rest place front
  | taken reports =>
    obtain rfl : { delivery with worker := .delivering delivery.config reports 0 } = after := by
      simpa [place] using step
    exact .begin reports place
  | delivering config reports next =>
    by_cases more : next < delivery.sinks.length
    · obtain rfl : { delivery.hand config reports next with
          worker := .delivering config reports (next + 1) } = after := by
        simpa [place, more] using step
      exact workerEffect_hand place more
    · obtain rfl : { delivery with worker := .checking } = after := by simpa [place, more] using step
      exact .finish config reports next place (Nat.le_of_not_lt more)

end Delivery

/-! ### Events -/

/-- One step of somebody at a delivery. -/
inductive DeliveryEvent where
  /-- Somebody puts a set of reports into the queue. -/
  | enqueue (reports : List Report)
  | configure (config : Config)
  /-- The first part of a start. -/
  | beginStart
  /-- The second part of a start. -/
  | launch
  /-- The first part of a stop. -/
  | markStop
  /-- The second part of a stop. -/
  | signalStop
  | enqueueStop
  | work

namespace DeliveryEvent

/-- The set that an event puts into the queue. -/
def set? : DeliveryEvent → Option (List Report)
  | enqueue reports => some reports
  | _ => none

/-- The configuration that an event brings. -/
def config? : DeliveryEvent → Option Config
  | configure config => some config
  | _ => none

/-- The sets that some events put into the queue, in their order. -/
def entered (events : List DeliveryEvent) : List (List Report) := events.filterMap set?

/-- The configuration after some events. -/
def current (config : Config) (events : List DeliveryEvent) : Config :=
  (events.filterMap config?).getLastD config

end DeliveryEvent

/-- A delivery, and what its worker did. -/
structure DeliveryScene where
  delivery : Delivery
  /-- The sets that the worker took from the queue. -/
  taken : List (List Report)
  /-- The rounds that the worker began, each with the configuration of that moment. -/
  begun : List Round
  /-- Whether a stop of the delivery is complete. -/
  completed : Bool

namespace DeliveryScene

def of (sinks : List Sink) (config : Config) : DeliveryScene := ⟨.of sinks config, [], [], false⟩

/-- What comes after a step of the worker. A stop by a sink is complete when the sink returns. -/
def work (scene : DeliveryScene) : DeliveryScene :=
  match scene.delivery.workerStep? with
  | none => scene
  | some after => {
      delivery := after
      taken := scene.taken ++ scene.delivery.taking
      begun := scene.begun ++ scene.delivery.beginning
      completed := scene.completed || (after.stopping && !scene.delivery.stopping) }

/-- What comes after an event. Only a delivery that runs can be marked as stopped; the other parts of a
stop follow it once each. -/
def happen (scene : DeliveryScene) : DeliveryEvent → DeliveryScene
  | .enqueue reports => { scene with delivery := scene.delivery.enqueue reports }
  | .configure config => { scene with delivery := scene.delivery.configure config }
  | .beginStart => { scene with delivery := scene.delivery.beginStart }
  | .launch => { scene with delivery := scene.delivery.launch }
  | .markStop =>
    if scene.delivery.stage = .running then { scene with delivery := scene.delivery.markStopped } else scene
  | .signalStop =>
    if scene.delivery.stage = .stopped then { scene with delivery := scene.delivery.signalStop } else scene
  | .enqueueStop =>
    if scene.delivery.stopping ∧ ¬ scene.completed then
      { scene with delivery := scene.delivery.enqueueStop, completed := true }
    else scene
  | .work => scene.work

def run (scene : DeliveryScene) (events : List DeliveryEvent) : DeliveryScene := events.foldl happen scene

@[simp] theorem run_nil (scene : DeliveryScene) : scene.run [] = scene := rfl

@[simp] theorem run_cons (scene : DeliveryScene) (first : DeliveryEvent) (rest : List DeliveryEvent) :
    scene.run (first :: rest) = (scene.happen first).run rest := rfl

theorem run_append (scene : DeliveryScene) (first second : List DeliveryEvent) :
    scene.run (first ++ second) = (scene.run first).run second := List.foldl_append

/-! ### What an event can do -/

/-- What an event does, with all that holds when it does that. -/
inductive Effect (scene : DeliveryScene) : DeliveryEvent → DeliveryScene → Prop where
  /-- It leaves the queue, the worker and the sinks alone. -/
  | quiet (event : DeliveryEvent) (config : Config) (stage : Lifecycle) (stopping : Bool)
      (noSet : event.set? = none) (brought : config = event.config?.getD scene.delivery.config)
      (signal : scene.delivery.stopping = true → stopping = true) :
      Effect scene event { scene with
        delivery := { scene.delivery with config := config, stage := stage, stopping := stopping } }
  | enqueue (reports : List Report) :
      Effect scene (.enqueue reports) { scene with delivery := scene.delivery.enqueue reports }
  | launch (absent : scene.delivery.worker = .absent) :
      Effect scene .launch { scene with delivery := { scene.delivery with worker := .checking } }
  /-- It puts the mark of the end into the queue. -/
  | enqueueStop :
      Effect scene .enqueueStop
        { scene with delivery := scene.delivery.enqueueStop, completed := true }
  | work (after : Delivery) (effect : scene.delivery.WorkerEffect after) :
      Effect scene .work {
        delivery := after
        taken := scene.taken ++ scene.delivery.taking
        begun := scene.begun ++ scene.delivery.beginning
        completed := scene.completed || (after.stopping && !scene.delivery.stopping) }

theorem Effect.none (scene : DeliveryScene) {event : DeliveryEvent} (noSet : event.set? = .none)
    (noConfig : event.config? = .none) : Effect scene event scene := by
  refine .quiet event scene.delivery.config scene.delivery.stage scene.delivery.stopping noSet ?_ id
  rw [noConfig]
  rfl

/-- **What an event can do.** -/
theorem effect_happen (scene : DeliveryScene) (event : DeliveryEvent) :
    Effect scene event (scene.happen event) := by
  cases event with
  | enqueue reports => exact .enqueue reports
  | configure config => exact .quiet _ config _ _ rfl rfl id
  | beginStart =>
    show Effect scene .beginStart { scene with delivery := scene.delivery.beginStart }
    unfold Delivery.beginStart
    split
    · exact .quiet _ _ .running _ rfl rfl id
    · exact .none scene rfl rfl
  | launch =>
    show Effect scene .launch { scene with delivery := scene.delivery.launch }
    unfold Delivery.launch
    split
    · exact .none scene rfl rfl
    · rename_i absent _
      exact .launch absent
    · exact .none scene rfl rfl
  | markStop =>
    show Effect scene .markStop (if _ then _ else _)
    split
    · exact .quiet _ _ .stopped _ rfl rfl id
    · exact .none scene rfl rfl
  | signalStop =>
    show Effect scene .signalStop (if _ then _ else _)
    split
    · exact .quiet _ _ _ true rfl rfl fun _ => rfl
    · exact .none scene rfl rfl
  | enqueueStop =>
    show Effect scene .enqueueStop (if _ then _ else _)
    split
    · exact .enqueueStop
    · exact .none scene rfl rfl
  | work =>
    show Effect scene .work scene.work
    unfold work
    split
    · exact .none scene rfl rfl
    · rename_i after step
      exact .work after (Delivery.workerEffect_of_workerStep? step)

/-! ### Whole calls -/

/-- A start is a run of its two parts. -/
theorem run_start {scene : DeliveryScene} {after : Delivery} (absent : scene.delivery.worker = .absent)
    (started : scene.delivery.start = .ok after) :
    (scene.run [.beginStart, .launch]).delivery = after := by
  obtain ⟨delivery, taken, begun, completed⟩ := scene
  obtain ⟨sinks, config, stage, stopping, queue, worker, handed⟩ := delivery
  obtain rfl : worker = .absent := absent
  cases stage with
  | created => exact Except.ok.inj started
  | running => cases started
  | stopped => cases started

/-- A stop of a delivery that was not stopped is a run of its three parts. -/
theorem run_stop {scene : DeliveryScene} (unstopped : scene.delivery.stage ≠ .stopped)
    (incomplete : scene.completed = false) (unsignalled : scene.delivery.stopping = false) :
    (scene.run [.markStop, .signalStop, .enqueueStop]).delivery = scene.delivery.stop := by
  obtain ⟨delivery, taken, begun, completed⟩ := scene
  obtain ⟨sinks, config, stage, stopping, queue, worker, handed⟩ := delivery
  obtain rfl : completed = false := incomplete
  obtain rfl : stopping = false := unsignalled
  cases stage with
  | created => rfl
  | running => rfl
  | stopped => exact absurd rfl unstopped

end DeliveryScene

end HostWatch
