/-
**What a delivery hands to its sinks.**

The senders, the changes of the configuration, a start, any stops and the worker come in any order. Whatever
the order is, and whichever sinks fail, no set of reports is lost, doubled or passed by another one, and a
stop leaves no worker behind that waits for ever.

* `RoundsCalled`: what the sinks got is each of the rounds that ended, and the part of the round in progress
  up to the sink whose turn it is.
* `DeliveryScene.Orderly`: **the invariant.** Every set that was put into the queue is in it, in the
  worker's hands or begun, in this order, and the sinks got the rounds that began as `RoundsCalled` says.
* `Orderly.effect`, `orderly_run`: every event keeps it, so every run does.
* `length_taken_run_le`: after the signal the worker takes one more set at most. It takes one when it had
  looked for the signal too early, which `allowance` counts.
* `run_inOrder`: **what it comes to** for each sink.
-/

import HostWatch.Proofs.Notice.Scene

namespace HostWatch

/-! ### What a step of the worker keeps -/

namespace Delivery.WorkerEffect

variable {delivery after : Delivery} (effect : delivery.WorkerEffect after)

include effect

theorem sinks_eq : after.sinks = delivery.sinks := by
  cases effect <;> rfl

theorem config_eq : after.config = delivery.config := by
  cases effect <;> rfl

/-- A set leaves the queue only into the worker's hands. -/
theorem taking_append_queued : delivery.taking ++ after.queued = delivery.queued := by
  cases effect with
  | leave place _ => simp [taking, queued, place]
  | await place _ => simp [taking, queued, place]
  | takeMark rest place front => simp [taking, queued, place, front, List.filterMap_cons]
  | takeSet reports rest place front => simp [taking, queued, place, front]
  | begin reports place => simp [taking, queued, place]
  | call config reports next failure? place _ => simp [taking, queued, place]
  | callStopping config reports next failure? place _ =>
    simp [taking, queued, place]
  | finish config reports next place _ => simp [taking, queued, place]

/-- A set leaves the worker's hands only into a round. -/
theorem beginning_append_inHand :
    delivery.beginning.map Round.reports ++ after.worker.inHand =
      delivery.worker.inHand ++ delivery.taking := by
  cases effect with
  | leave place _ => simp [taking, beginning, place]
  | await place _ => simp [taking, beginning, place]
  | takeMark rest place front => simp [taking, beginning, place, front]
  | takeSet reports rest place front => simp [taking, beginning, place, front]
  | begin reports place => simp [taking, beginning, place]
  | call config reports next failure? place _ => simp [taking, beginning, place]
  | callStopping config reports next failure? place _ =>
    simp [taking, beginning, place]
  | finish config reports next place _ => simp [taking, beginning, place]

/-- The mark of the end leaves the queue only when the worker goes. -/
theorem gone_or_mark (kept : delivery.worker = .gone ∨ .stop ∈ delivery.queue) :
    after.worker = .gone ∨ .stop ∈ after.queue := by
  cases effect with
  | leave place _ => exact .inl rfl
  | takeMark rest place front => exact .inl rfl
  | takeSet reports rest place front => simpa [place, front] using kept
  | callStopping config reports next failure? place _ => exact .inr (by simp)
  | await place _ => simpa [place] using kept
  | begin reports place => simpa [place] using kept
  | call config reports next failure? place _ => simpa [place] using kept
  | finish config reports next place _ => simpa [place] using kept

/-- A worker that signals the end itself puts the mark of it into the queue. -/
theorem mark_of_signal (signalled : after.stopping = true) (unsignalled : delivery.stopping = false) :
    .stop ∈ after.queue := by
  cases effect with
  | callStopping config reports next failure? place _ => simp
  | leave place before => simp [unsignalled] at before
  | _ => simp [unsignalled] at signalled

theorem stopping_of_stopping (signalled : delivery.stopping = true) : after.stopping = true := by
  cases effect with
  | callStopping config reports next failure? place _ => rfl
  | _ => exact signalled

/-- Once the signal is there, the worker comes to the queue no more than it is there already. -/
theorem length_taking_le (signalled : delivery.stopping = true) :
    delivery.taking.length + after.worker.isWaiting.toNat ≤ delivery.worker.isWaiting.toNat := by
  cases effect with
  | leave place _ => simp [taking, place]
  | await place unsignalled => simp [signalled] at unsignalled
  | takeMark rest place front => simp [taking, place, front]
  | takeSet reports rest place front => simp [taking, place, front]
  | begin reports place => simp [taking, place]
  | call config reports next failure? place _ => simp [taking, place]
  | callStopping config reports next failure? place _ => simp [taking, place]
  | finish config reports next place _ => simp [taking, place]

end Delivery.WorkerEffect

/-! ### The rounds of the sinks -/

/-- A sink is called once in a round that has come to it, and not at all in another one. -/
theorem Round.filter_calls (round : Round) (count sink : Nat) :
    ((round.calls count).filter fun call => call.1 = sink).map Prod.snd =
      if sink < count then [round] else [] := by
  induction count with
  | zero => rfl
  | succ count ih =>
    have last : round.calls (count + 1) = round.calls count ++ [(count, round)] := by
      simp [Round.calls, List.range_succ]
    rw [last, List.filter_append, List.map_append, ih]
    by_cases own : count = sink
    · subst own
      simp
    · have same : sink < count + 1 ↔ sink < count := by omega
      simp [own, same]

/-- The rounds that began, as far as the sinks were called in them: all sinks in those that ended, and the
sinks so far in the one in progress. -/
structure RoundsCalled (count : Nat) (worker : Worker) (begun : List Round) (calls : List (Nat × Round)) :
    Prop where
  exists_ended : ∃ ended, begun = ended ++ worker.inProgress ∧
    calls = ended.flatMap (Round.calls · count) ++
      worker.inProgress.flatMap (Round.calls · worker.reached)
  reached_le : worker.reached ≤ count

namespace RoundsCalled

variable {count : Nat} {worker : Worker} {begun : List Round} {calls : List (Nat × Round)}

/-- Only the worker's place in a round matters. -/
theorem of_idle (called : RoundsCalled count worker begun calls) {after : Worker}
    (idle : worker.inProgress = []) (idleAfter : after.inProgress = []) (zero : after.reached = 0) :
    RoundsCalled count after begun calls := by
  obtain ⟨ended, rounds, made⟩ := called.exists_ended
  rw [idle] at rounds made
  refine ⟨⟨ended, ?_, ?_⟩, ?_⟩
  · rw [idleAfter]
    exact rounds
  · rw [idleAfter]
    exact made
  · rw [zero]
    exact Nat.zero_le count

/-- A round begins with no calls. -/
theorem begin (called : RoundsCalled count worker begun calls) (idle : worker.inProgress = [])
    (config : Config) (reports : List Report) :
    RoundsCalled count (.delivering config reports 0) (begun ++ [⟨config, reports⟩]) calls := by
  obtain ⟨ended, rounds, made⟩ := called.exists_ended
  rw [idle] at rounds made
  refine ⟨⟨begun, rfl, ?_⟩, Nat.zero_le count⟩
  rw [made, rounds]
  simp [Worker.inProgress, Worker.reached, Round.calls]

variable {config : Config} {reports : List Report} {next : Nat}

/-- A call goes to the sink whose turn it is. -/
theorem call (called : RoundsCalled count (.delivering config reports next) begun calls)
    (more : next < count) :
    RoundsCalled count (.delivering config reports (next + 1)) begun
      (calls ++ [(next, ⟨config, reports⟩)]) := by
  obtain ⟨ended, rounds, made⟩ := called.exists_ended
  refine ⟨⟨ended, rounds, ?_⟩, more⟩
  rw [made]
  simp [Worker.inProgress, Worker.reached, Round.calls, List.range_succ]

/-- A round ends when all sinks were called. -/
theorem finish (called : RoundsCalled count (.delivering config reports next) begun calls)
    (all : count ≤ next) : RoundsCalled count .checking begun calls := by
  obtain ⟨ended, rounds, made⟩ := called.exists_ended
  have complete : next = count := Nat.le_antisymm called.reached_le all
  refine ⟨⟨begun, ?_, ?_⟩, Nat.zero_le count⟩
  · exact (List.append_nil begun).symm
  · rw [made, rounds]
    simp [Worker.inProgress, Worker.reached, complete]

/-- **A sink has got each round that began, once and in their order**; the last one may still owe it. -/
theorem rounds_eq (called : RoundsCalled count worker begun calls) {sink : Nat} (isSink : sink < count) :
    (calls.filter fun call => call.1 = sink).map Prod.snd =
      if worker.owes sink then begun.dropLast else begun := by
  obtain ⟨ended, rounds, made⟩ := called.exists_ended
  have each : ∀ rounds : List Round,
      ((rounds.flatMap (Round.calls · count)).filter fun call => call.1 = sink).map Prod.snd = rounds := by
    intro rounds
    induction rounds with
    | nil => rfl
    | cons first rest ih =>
      rw [List.flatMap_cons, List.filter_append, List.map_append, ih, Round.filter_calls, if_pos isSink]
      rfl
  rw [made, List.filter_append, List.map_append, each, rounds]
  cases worker with
  | delivering config reports next =>
    simp only [Worker.inProgress, Worker.reached, Worker.owes, List.flatMap_cons, List.flatMap_nil,
      List.append_nil, Round.filter_calls, decide_eq_true_eq, List.dropLast_concat]
    by_cases come : sink < next
    · rw [if_pos come, if_neg (Nat.not_le.2 come)]
    · rw [if_neg come, if_pos (Nat.le_of_not_lt come), List.append_nil]
  | _ => simp [Worker.inProgress, Worker.owes]

end RoundsCalled

/-- A step of the worker keeps the account of the calls. -/
theorem RoundsCalled.work {delivery after : Delivery} {begun : List Round}
    (called : RoundsCalled delivery.sinks.length delivery.worker begun delivery.calls)
    (effect : delivery.WorkerEffect after) :
    RoundsCalled after.sinks.length after.worker (begun ++ delivery.beginning) after.calls := by
  -- Only the worker's place changes in a step that neither begins nor ends a round nor calls a sink.
  have quiet : ∀ {place : Worker}, delivery.worker.inProgress = [] → delivery.beginning = [] →
      place.inProgress = [] → place.reached = 0 →
      RoundsCalled delivery.sinks.length place (begun ++ delivery.beginning) delivery.calls := by
    intro place idle none idleAfter zero
    rw [none, List.append_nil]
    exact called.of_idle idle idleAfter zero
  cases effect with
  | leave place _ => exact quiet (by simp [place]) (by simp [Delivery.beginning, place]) rfl rfl
  | await place _ => exact quiet (by simp [place]) (by simp [Delivery.beginning, place]) rfl rfl
  | takeMark rest place front =>
    exact quiet (by simp [place]) (by simp [Delivery.beginning, place]) rfl rfl
  | takeSet reports rest place front =>
    exact quiet (by simp [place]) (by simp [Delivery.beginning, place]) rfl rfl
  | begin reports place =>
    have begins : delivery.beginning = [⟨delivery.config, reports⟩] := by
      simp [Delivery.beginning, place]
    rw [begins]
    exact called.begin (by simp [place]) delivery.config reports
  | call config reports next failure? place more =>
    rw [place] at called
    simpa [Delivery.beginning, Delivery.calls, Handing.round, place] using called.call more
  | callStopping config reports next failure? place more =>
    rw [place] at called
    simpa [Delivery.beginning, Delivery.calls, Handing.round, place] using called.call more
  | finish config reports next place all =>
    rw [place] at called
    have none : delivery.beginning = [] := by simp [Delivery.beginning, place]
    rw [none, List.append_nil]
    exact called.finish all

/-! ### Runs -/

namespace DeliveryScene

/-- **A scene in order**, after so many sets were put into the queue. -/
structure Orderly (sinks : List Sink) (entered : List (List Report)) (scene : DeliveryScene) : Prop where
  sinks_eq : scene.delivery.sinks = sinks
  taken_append_queued : scene.taken ++ scene.delivery.queued = entered
  begun_append_inHand : scene.begun.map Round.reports ++ scene.delivery.worker.inHand = scene.taken
  rounds : RoundsCalled scene.delivery.sinks.length scene.delivery.worker scene.begun scene.delivery.calls
  marked : scene.completed = true → scene.delivery.worker = .gone ∨ .stop ∈ scene.delivery.queue

theorem orderly_of (sinks : List Sink) (config : Config) : Orderly sinks [] (of sinks config) :=
  ⟨rfl, rfl, rfl, ⟨⟨[], rfl, rfl⟩, Nat.zero_le _⟩, nofun⟩

/-- **Every event keeps the order.** -/
theorem Orderly.effect {sinks : List Sink} {entered : List (List Report)} {scene after : DeliveryScene}
    {event : DeliveryEvent} (orderly : Orderly sinks entered scene) (effect : Effect scene event after) :
    Orderly sinks (entered ++ event.set?.toList) after := by
  cases effect with
  | quiet _ config stage stopping noSet _ _ =>
    rw [noSet]
    show Orderly sinks (entered ++ []) _
    rw [List.append_nil]
    exact ⟨orderly.sinks_eq, orderly.taken_append_queued, orderly.begun_append_inHand, orderly.rounds,
      orderly.marked⟩
  | enqueue reports =>
    refine ⟨orderly.sinks_eq, ?_, orderly.begun_append_inHand, orderly.rounds, fun complete => ?_⟩
    · show scene.taken ++ (scene.delivery.enqueue reports).queued = entered ++ [reports]
      rw [Delivery.queued_enqueue, ← List.append_assoc, orderly.taken_append_queued]
    · exact (orderly.marked complete).imp_right (List.mem_append_left _)
  | launch absent =>
    show Orderly sinks (entered ++ []) _
    rw [List.append_nil]
    obtain ⟨sinks_eq, taken_append_queued, begun_append_inHand, rounds, marked⟩ := orderly
    rw [absent] at begun_append_inHand rounds marked
    exact ⟨sinks_eq, taken_append_queued, begun_append_inHand, rounds.of_idle rfl rfl rfl,
      fun complete => (marked complete).imp_left nofun⟩
  | enqueueStop =>
    refine ⟨orderly.sinks_eq, ?_, orderly.begun_append_inHand, orderly.rounds, fun _ => .inr ?_⟩
    · show scene.taken ++ scene.delivery.enqueueStop.queued = entered ++ []
      rw [Delivery.queued_enqueueStop, orderly.taken_append_queued, List.append_nil]
    · exact List.mem_append_right _ (List.mem_singleton_self _)
  | work next effect =>
    refine ⟨effect.sinks_eq.trans orderly.sinks_eq, ?_, ?_, orderly.rounds.work effect,
      fun complete => ?_⟩
    · show scene.taken ++ scene.delivery.taking ++ next.queued = entered ++ []
      rw [List.append_assoc, effect.taking_append_queued, orderly.taken_append_queued, List.append_nil]
    · show (scene.begun ++ scene.delivery.beginning).map Round.reports ++ next.worker.inHand =
        scene.taken ++ scene.delivery.taking
      rw [List.map_append, List.append_assoc, effect.beginning_append_inHand, ← List.append_assoc,
        orderly.begun_append_inHand]
    · have complete : scene.completed = true ∨
          next.stopping = true ∧ scene.delivery.stopping = false := by
        simpa using complete
      rcases complete with before | ⟨signalled, unsignalled⟩
      · exact effect.gone_or_mark (orderly.marked before)
      · exact .inr (effect.mark_of_signal signalled unsignalled)

/-- **Every run keeps the order.** -/
theorem orderly_run {sinks : List Sink} {entered : List (List Report)} {scene : DeliveryScene}
    (orderly : Orderly sinks entered scene) (events : List DeliveryEvent) :
    Orderly sinks (entered ++ DeliveryEvent.entered events) (scene.run events) := by
  induction events generalizing scene entered with
  | nil =>
    show Orderly sinks (entered ++ []) scene
    rw [List.append_nil]
    exact orderly
  | cons first rest ih =>
    have later := ih (orderly.effect (effect_happen scene first))
    rw [List.append_assoc] at later
    cases first <;> exact later

/-! ### The configuration -/

theorem Effect.config_eq {scene after : DeliveryScene} {event : DeliveryEvent}
    (effect : Effect scene event after) :
    after.delivery.config = event.config?.getD scene.delivery.config := by
  cases effect with
  | quiet _ config stage stopping _ brought _ => exact brought
  | work next effect => exact effect.config_eq
  | _ => rfl

/-- The configuration is the last one that was brought. -/
theorem config_run (scene : DeliveryScene) (events : List DeliveryEvent) :
    (scene.run events).delivery.config = DeliveryEvent.current scene.delivery.config events := by
  induction events generalizing scene with
  | nil => rfl
  | cons first rest ih =>
    rw [run_cons, ih, (effect_happen scene first).config_eq]
    unfold DeliveryEvent.current
    cases first with
    | configure config => exact List.getLastD_cons.symm
    | _ => rfl

/-! ### After the signal -/

/-- How many sets a worker that was signalled to stop takes at most, with those that it took: one more when
it is already at the queue. -/
def allowance (scene : DeliveryScene) : Nat := scene.taken.length + scene.delivery.worker.isWaiting.toNat

theorem allowance_le (scene : DeliveryScene) : scene.allowance ≤ scene.taken.length + 1 :=
  Nat.add_le_add_left (Bool.toNat_le _) _

theorem Effect.stopping_of_stopping {scene after : DeliveryScene} {event : DeliveryEvent}
    (effect : Effect scene event after) (signalled : scene.delivery.stopping = true) :
    after.delivery.stopping = true := by
  cases effect with
  | quiet _ config stage stopping _ _ signal => exact signal signalled
  | work next effect => exact effect.stopping_of_stopping signalled
  | _ => exact signalled

/-- No event raises the allowance after the signal. -/
theorem Effect.allowance_le {scene after : DeliveryScene} {event : DeliveryEvent}
    (effect : Effect scene event after) (signalled : scene.delivery.stopping = true) :
    after.allowance ≤ scene.allowance := by
  cases effect with
  | launch absent => exact Nat.le_add_right ..
  | work next effect =>
    have fewer := effect.length_taking_le signalled
    show (scene.taken ++ scene.delivery.taking).length + next.worker.isWaiting.toNat ≤
      scene.taken.length + scene.delivery.worker.isWaiting.toNat
    rw [List.length_append]
    omega
  | _ => exact Nat.le_refl _

/-- **After the signal, the worker takes one more set at most.** -/
theorem length_taken_run_le {scene : DeliveryScene} (signalled : scene.delivery.stopping = true)
    (events : List DeliveryEvent) : (scene.run events).taken.length ≤ scene.allowance := by
  induction events generalizing scene with
  | nil => exact Nat.le_add_right ..
  | cons first rest ih =>
    have effect := effect_happen scene first
    exact Nat.le_trans (ih (effect.stopping_of_stopping signalled)) (effect.allowance_le signalled)

/-! ### Every interleaving -/

/-- The rounds of a sink are its calls without the place. -/
theorem roundsOf_eq (delivery : Delivery) (sink : Nat) :
    delivery.roundsOf sink = (delivery.calls.filter fun call => call.1 = sink).map Prod.snd := by
  unfold Delivery.roundsOf Delivery.calls
  rw [List.filter_map, List.map_map]
  rfl

/-- **A delivery in order**: what its sinks got, when so many sets were put into its queue and this is its
configuration. -/
structure InOrder (sinks : List Sink) (entered : List (List Report)) (config : Config)
    (scene : DeliveryScene) : Prop where
  /-- No set is lost: the worker took the first ones, and the others are in the queue. -/
  taken_append_queued : scene.taken ++ scene.delivery.queued = entered
  /-- The rounds are about the first sets, one round about each. -/
  begun_prefix : scene.begun.map Round.reports <+: entered
  /-- Each sink got each round once and in their order, up to the round in progress when its turn in that
  one has not come; and all sinks got the round with the configuration with which it began. -/
  roundsOf_eq : ∀ sink, sink < sinks.length → scene.delivery.roundsOf sink =
    if scene.delivery.worker.owes sink then scene.begun.dropLast else scene.begun
  /-- The configuration with which a round begins now is the last one that was brought. -/
  config_eq : scene.delivery.config = config
  /-- Once the worker is signalled to stop, it takes one more set at most, whatever comes. -/
  length_taken_le : scene.delivery.stopping = true →
    ∀ later, (scene.run later).taken.length ≤ scene.taken.length + 1
  /-- After a stop is complete, the worker does not wait at an empty queue. -/
  not_stuck : scene.completed = true →
    ¬ (scene.delivery.worker = .waiting ∧ scene.delivery.queue = [])

theorem Orderly.inOrder {sinks : List Sink} {entered : List (List Report)} {scene : DeliveryScene}
    (orderly : Orderly sinks entered scene) : InOrder sinks entered scene.delivery.config scene := by
  refine ⟨orderly.taken_append_queued, ?_, fun sink isSink => ?_, rfl, fun signalled later => ?_,
    fun complete stuck => ?_⟩
  · refine ⟨scene.delivery.worker.inHand ++ scene.delivery.queued, ?_⟩
    rw [← List.append_assoc, orderly.begun_append_inHand, orderly.taken_append_queued]
  · rw [DeliveryScene.roundsOf_eq]
    rw [← orderly.sinks_eq] at isSink
    exact orderly.rounds.rounds_eq isSink
  · exact Nat.le_trans (length_taken_run_le signalled later) scene.allowance_le
  · obtain ⟨waits, empty⟩ := stuck
    rcases orderly.marked complete with gone | marked
    · rw [waits] at gone
      cases gone
    · rw [empty] at marked
      cases marked

/-- **Every interleaving is in order.** Sets of reports, changes of the configuration, the parts of a start
and of stops, and steps of the worker may come in any order, and any sink may fail or stop the delivery. -/
theorem run_inOrder (sinks : List Sink) (config : Config) (events : List DeliveryEvent) :
    InOrder sinks (DeliveryEvent.entered events) (DeliveryEvent.current config events)
      ((of sinks config).run events) := by
  have inOrder := (orderly_run (orderly_of sinks config) events).inOrder
  rw [config_run, List.nil_append] at inOrder
  exact inOrder

end DeliveryScene

end HostWatch
