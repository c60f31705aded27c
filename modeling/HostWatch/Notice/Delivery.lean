/-
**The delivery of reports.**

A delivery takes sets of reports into a queue and never makes the sender wait. Its worker takes them
from the queue one by one and hands each to all sinks, with the configuration that is current when it
begins with the set. What a sink does with the reports does not matter to the other sinks nor to the
following sets.

A stop marks the delivery as stopped, then signals it to the worker, then puts a mark into the queue,
so that a worker that waits at an empty queue wakes up. The worker goes when it sees the signal before
it waits, or when it takes the mark.

* `Delivery.workerStep?` is one step of the worker; nothing while the worker waits at an empty queue.
* `Delivery.settle` lets the worker go on until it waits or is gone.
-/
import HostWatch.Notice.Sending

namespace HostWatch

/-- What a call of a sink does besides taking the reports. -/
structure Reaction where
  stops : Bool
  /-- The failure that it ends in, if it does. -/
  failure? : Option Failure

/-- A receiver of reports: what its first, second and following calls do. -/
abbrev Sink := Nat → Config → List Report → Reaction

/-- The sinks that send reports to servers. -/
def Servers.sinks (servers : Servers) : List Sink :=
  servers.outlets.map fun send _ config reports =>
    ⟨false, match (send config reports false).held.1 with
      | .ok () => none
      | .error failure => some failure⟩

/-- A place in the queue of a delivery. -/
inductive Parcel where
  | reports (set : List Report)
  | stop

/-- What the worker of a delivery is doing. -/
inductive Worker where
  /-- It was not yet started. -/
  | absent
  /-- It is about to look for the signal to stop. -/
  | checking
  /-- It waits for the first place of the queue. -/
  | waiting
  | taken (reports : List Report)
  /-- It is about to call a sink; those before it got the reports. -/
  | delivering (config : Config) (reports : List Report) (next : Nat)
  | gone

/-- A call of a sink. -/
structure Handing where
  sink : Nat
  /-- The configuration that it was called with. -/
  config : Config
  reports : List Report
  /-- The failure that the call ended in, if it did. -/
  failure? : Option Failure

/-- A delivery. -/
structure Delivery where
  /-- The receivers of the reports, in the order in which they are called. -/
  sinks : List Sink
  config : Config
  stage : Lifecycle
  stopping : Bool
  /-- What waits for the worker, the first one in front. -/
  queue : List Parcel
  worker : Worker
  /-- The calls of sinks, the first one in front. -/
  handed : List Handing

namespace Delivery

/-- The name of a delivery as a service. -/
def name : String := "Notificator"

def of (sinks : List Sink) (config : Config) : Delivery :=
  ⟨sinks, config, .created, false, [], .absent, []⟩

/-! ### What others do -/

def configure (delivery : Delivery) (config : Config) : Delivery := { delivery with config := config }

/-- Puts a set of reports into the queue. -/
def enqueue (delivery : Delivery) (reports : List Report) : Delivery :=
  { delivery with queue := delivery.queue ++ [.reports reports] }

/-- The number of places in the queue. -/
def pending (delivery : Delivery) : Nat := delivery.queue.length

def isRunning (delivery : Delivery) : Bool := delivery.stage = .running

/-- Whether there is a worker that has not ended. -/
def isAlive (delivery : Delivery) : Bool :=
  match delivery.worker with
  | .absent => false
  | .gone => false
  | _ => true

def start (delivery : Delivery) : Except Failure Delivery :=
  match delivery.stage.started name with
  | .error fault => .error (.service fault)
  | .ok stage => .ok { delivery with stage := stage, worker := .checking }

/-- The first part of a stop. -/
def markStopped (delivery : Delivery) : Delivery := { delivery with stage := .stopped }

/-- The second part of a stop. -/
def signalStop (delivery : Delivery) : Delivery := { delivery with stopping := true }

def enqueueStop (delivery : Delivery) : Delivery :=
  { delivery with queue := delivery.queue ++ [.stop] }

/-- Stops the delivery when it runs. -/
def stop (delivery : Delivery) : Delivery :=
  if delivery.isRunning then delivery.markStopped.signalStop.enqueueStop else delivery

/-! ### Calls of sinks -/

def callsOf (delivery : Delivery) (sink : Nat) : Nat :=
  (delivery.handed.filter fun handing => handing.sink = sink).length

def hand (delivery : Delivery) (config : Config) (reports : List Report) (sink : Nat) : Delivery :=
  match delivery.sinks[sink]? with
  | none => delivery
  | some call =>
    let reaction := call (delivery.callsOf sink + 1) config reports
    let handing : Handing := ⟨sink, config, reports, reaction.failure?⟩
    let delivery := { delivery with handed := delivery.handed ++ [handing] }
    if reaction.stops then delivery.stop else delivery

/-- Calls all sinks at once, without the queue and the worker. -/
def deliver (delivery : Delivery) (reports : List Report) : Delivery :=
  (List.range delivery.sinks.length).foldl
    (fun current sink => current.hand delivery.config reports sink) delivery

/-! ### The worker -/

/-- One step of the worker, if it can go on. -/
def workerStep? (delivery : Delivery) : Option Delivery :=
  match delivery.worker with
  | .absent => none
  | .gone => none
  | .checking => some { delivery with worker := if delivery.stopping then .gone else .waiting }
  | .waiting =>
    match delivery.queue with
    | [] => none
    | .stop :: rest => some { delivery with queue := rest, worker := .gone }
    | .reports set :: rest => some { delivery with queue := rest, worker := .taken set }
  | .taken reports => some { delivery with worker := .delivering delivery.config reports 0 }
  | .delivering config reports next =>
    if next < delivery.sinks.length then
      some { delivery.hand config reports next with worker := .delivering config reports (next + 1) }
    else some { delivery with worker := .checking }

/-- At most so many steps of the worker. -/
def workerSteps (delivery : Delivery) : Nat → Delivery
  | 0 => delivery
  | limit + 1 =>
    match delivery.workerStep? with
    | none => delivery
    | some next => next.workerSteps limit

/-- The steps of the worker until it waits at an empty queue or is gone: with every place in the queue,
one more for the end and the set in its hands, it is done after a round over all sinks. -/
def settle (delivery : Delivery) : Delivery :=
  delivery.workerSteps ((delivery.queue.length + 2) * (delivery.sinks.length + 4))

end Delivery

end HostWatch
