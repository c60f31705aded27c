/-
**What is pending in a delivery.**

The queue holds the sets of reports that wait for the worker, and behind a stop also the mark that wakes up a
worker which waits. What is pending is told by the number of places in the queue, so that the mark is counted
as one more set. A worker that takes the mark sets the count right; one that sees the signal first is gone
without it, and the count is one too high from then on.

* `Delivery.pending_eq`: what is pending is the sets in the queue and the marks.
* `DeliveryScene.Halting`: **the invariant.** There is no signal before the delivery is marked as stopped, and
  no mark in the queue before a stop is complete; there is never a second one.
* `halting_happen`, `halting_run`: every event keeps it, so every run does.
* `marks_run_of_gone`: what a worker that is gone has left stays.
* `run_countsPending`: **what is pending in every interleaving.**
* `pending_of_signalledWorker`: a worker that has taken the one set there was, and one set pending.
-/

import HostWatch.Proofs.Notice.Order

namespace HostWatch

/-! ### Places in the queue -/

/-- Whether a place in the queue is the mark of the end. -/
@[simp] def Parcel.isMark : Parcel → Bool
  | reports _ => false
  | stop => true

theorem Parcel.stop_mem_iff (places : List Parcel) : .stop ∈ places ↔ 0 < places.countP isMark := by
  rw [List.countP_pos_iff]
  constructor
  · exact fun member => ⟨.stop, member, rfl⟩
  · rintro ⟨place, member, isMark⟩
    cases place with
    | reports set => cases isMark
    | stop => exact member

namespace Delivery

/-- The number of marks in the queue. -/
def marks (delivery : Delivery) : Nat := delivery.queue.countP Parcel.isMark

theorem stop_mem_iff (delivery : Delivery) : .stop ∈ delivery.queue ↔ 0 < delivery.marks :=
  Parcel.stop_mem_iff delivery.queue

/-- **What is pending is the sets in the queue and the marks.** -/
theorem pending_eq (delivery : Delivery) : delivery.pending = delivery.queued.length + delivery.marks := by
  unfold pending queued marks
  induction delivery.queue with
  | nil => rfl
  | cons place rest ih =>
    cases place with
    | reports set =>
      rw [List.filterMap_cons_some (show (Parcel.reports set).set? = some set from rfl),
        List.countP_cons_of_neg (by simp), List.length_cons, List.length_cons, ih]
      omega
    | stop =>
      rw [List.filterMap_cons_none (show Parcel.stop.set? = none from rfl),
        List.countP_cons_of_pos (by simp), List.length_cons, ih]
      omega

@[simp] theorem marks_enqueue (delivery : Delivery) (reports : List Report) :
    (delivery.enqueue reports).marks = delivery.marks := by
  show (delivery.queue ++ [Parcel.reports reports]).countP Parcel.isMark = _
  rw [List.countP_append]
  rfl

@[simp] theorem marks_enqueueStop (delivery : Delivery) : delivery.enqueueStop.marks = delivery.marks + 1 := by
  show (delivery.queue ++ [Parcel.stop]).countP Parcel.isMark = _
  rw [List.countP_append]
  rfl

end Delivery

namespace DeliveryScene

/-! ### The mark and the lifecycle -/

/-- **How far a stop has come.** Each of its parts waits for the one before it, and there is no mark but the
one that completes it. -/
structure Halting (scene : DeliveryScene) : Prop where
  stopped : scene.delivery.stopping = true → scene.delivery.stage = .stopped
  signalled : scene.completed = true → scene.delivery.stopping = true
  marks_le : scene.delivery.marks ≤ scene.completed.toNat

theorem halting_of (sinks : List Sink) (config : Config) : Halting (of sinks config) :=
  ⟨nofun, nofun, Nat.le_refl 0⟩

/-- The worker adds a mark only by the sink that stops the delivery. -/
theorem Halting.work {scene : DeliveryScene} (halting : Halting scene) {after : Delivery}
    (effect : scene.delivery.WorkerEffect after) (taken : List (List Report)) (begun : List Round) :
    Halting ⟨after, taken, begun, scene.completed || (after.stopping && !scene.delivery.stopping)⟩ := by
  obtain ⟨stopped, signalled, marks_le⟩ := halting
  have quiet (place : Worker) (handed : List Handing) :
      Halting ⟨{ scene.delivery with worker := place, handed := handed }, taken, begun,
        scene.completed || (scene.delivery.stopping && !scene.delivery.stopping)⟩ := by
    rw [Bool.and_not_self, Bool.or_false]
    exact ⟨stopped, signalled, marks_le⟩
  have shorter (rest : List Parcel) (place : Worker)
      (fewer : rest.countP Parcel.isMark ≤ scene.delivery.marks) :
      Halting ⟨{ scene.delivery with queue := rest, worker := place }, taken, begun,
        scene.completed || (scene.delivery.stopping && !scene.delivery.stopping)⟩ := by
    rw [Bool.and_not_self, Bool.or_false]
    exact ⟨stopped, signalled, Nat.le_trans fewer marks_le⟩
  cases effect with
  | leave place _ => exact quiet .gone _
  | await place _ => exact quiet .waiting _
  | takeMark rest place front =>
    refine shorter rest .gone ?_
    unfold Delivery.marks
    rw [front]
    exact (List.sublist_cons_self _ _).countP_le
  | takeSet reports rest place front =>
    refine shorter rest (.taken reports) ?_
    unfold Delivery.marks
    rw [front]
    exact (List.sublist_cons_self _ _).countP_le
  | begin reports place => exact quiet (.delivering _ reports 0) _
  | call config reports next failure? place more => exact quiet (.delivering config reports (next + 1)) _
  | callStopping config reports next failure? place more running =>
    have unsignalled : scene.delivery.stopping = false := by
      rw [Bool.eq_false_iff]
      intro signal
      rw [running] at stopped
      cases stopped signal
    have incomplete : scene.completed = false := by
      rw [Bool.eq_false_iff]
      intro complete
      rw [signalled complete] at unsignalled
      cases unsignalled
    refine ⟨fun _ => rfl, fun _ => rfl, ?_⟩
    rw [incomplete] at marks_le
    show scene.delivery.enqueueStop.marks ≤ (scene.completed || (true && !scene.delivery.stopping)).toNat
    rw [Delivery.marks_enqueueStop, incomplete, unsignalled]
    exact Nat.succ_le_succ marks_le
  | finish config reports next place _ => exact quiet .checking _

/-- **Every event keeps the parts of a stop in their order.** -/
theorem halting_happen {scene : DeliveryScene} (halting : Halting scene) (event : DeliveryEvent) :
    Halting (scene.happen event) := by
  have ⟨stopped, signalled, marks_le⟩ := halting
  cases event with
  | enqueue reports =>
    refine ⟨stopped, signalled, ?_⟩
    show (scene.delivery.enqueue reports).marks ≤ _
    rw [Delivery.marks_enqueue]
    exact marks_le
  | configure config => exact ⟨stopped, signalled, marks_le⟩
  | beginStart =>
    show Halting { scene with delivery := scene.delivery.beginStart }
    unfold Delivery.beginStart
    split
    · rename_i created
      refine ⟨fun signal => ?_, signalled, marks_le⟩
      rw [stopped signal] at created
      cases created
    · exact halting
  | launch =>
    show Halting { scene with delivery := scene.delivery.launch }
    unfold Delivery.launch
    split
    · exact halting
    · exact ⟨stopped, signalled, marks_le⟩
    · exact halting
  | markStop =>
    show Halting (if _ then _ else _)
    split
    · exact ⟨fun _ => rfl, signalled, marks_le⟩
    · exact halting
  | signalStop =>
    show Halting (if _ then _ else _)
    split
    · rename_i marked
      exact ⟨fun _ => marked, fun _ => rfl, marks_le⟩
    · exact halting
  | enqueueStop =>
    show Halting (if _ then _ else _)
    split
    · rename_i ready
      obtain ⟨signal, incomplete⟩ := ready
      rw [Bool.not_eq_true] at incomplete
      rw [incomplete] at marks_le
      refine ⟨stopped, fun _ => signal, ?_⟩
      show scene.delivery.enqueueStop.marks ≤ 1
      rw [Delivery.marks_enqueueStop]
      exact Nat.succ_le_succ marks_le
    · exact halting
  | work =>
    show Halting scene.work
    unfold DeliveryScene.work
    split
    · exact halting
    · rename_i after step
      exact halting.work (Delivery.workerEffect_of_workerStep? step) _ _

theorem halting_run {scene : DeliveryScene} (halting : Halting scene) (events : List DeliveryEvent) :
    Halting (scene.run events) := by
  induction events generalizing scene with
  | nil => exact halting
  | cons first rest ih => exact ih (halting_happen halting first)

/-! ### A worker that is gone -/

/-- A delivery whose stop is complete and whose worker is gone. -/
structure Ended (scene : DeliveryScene) : Prop where
  completed : scene.completed = true
  gone : scene.delivery.worker = .gone

/-- **What a worker that is gone has left stays**: no event takes the mark, and none puts a second one. -/
theorem Ended.happen {scene : DeliveryScene} (ended : Ended scene) (event : DeliveryEvent) :
    Ended (scene.happen event) ∧ (scene.happen event).delivery.marks = scene.delivery.marks := by
  have ⟨completed, gone⟩ := ended
  cases event with
  | enqueue reports => exact ⟨⟨completed, gone⟩, Delivery.marks_enqueue _ reports⟩
  | configure config => exact ⟨⟨completed, gone⟩, rfl⟩
  | beginStart =>
    show Ended { scene with delivery := scene.delivery.beginStart } ∧ scene.delivery.beginStart.marks = _
    unfold Delivery.beginStart
    split
    · exact ⟨⟨completed, gone⟩, rfl⟩
    · exact ⟨ended, rfl⟩
  | launch =>
    show Ended { scene with delivery := scene.delivery.launch } ∧ scene.delivery.launch.marks = _
    unfold Delivery.launch
    rw [gone]
    split
    · exact ⟨ended, rfl⟩
    · rename_i absent _
      cases absent
    · exact ⟨ended, rfl⟩
  | markStop =>
    show Ended (if _ then _ else _) ∧ (if _ then _ else _ : DeliveryScene).delivery.marks = _
    split
    · exact ⟨⟨completed, gone⟩, rfl⟩
    · exact ⟨ended, rfl⟩
  | signalStop =>
    show Ended (if _ then _ else _) ∧ (if _ then _ else _ : DeliveryScene).delivery.marks = _
    split
    · exact ⟨⟨completed, gone⟩, rfl⟩
    · exact ⟨ended, rfl⟩
  | enqueueStop =>
    show Ended (if _ then _ else _) ∧ (if _ then _ else _ : DeliveryScene).delivery.marks = _
    rw [if_neg fun ready => ready.2 completed]
    exact ⟨ended, rfl⟩
  | work =>
    have idle : scene.delivery.workerStep? = none := by
      unfold Delivery.workerStep?
      rw [gone]
    show Ended scene.work ∧ scene.work.delivery.marks = _
    unfold DeliveryScene.work
    rw [idle]
    exact ⟨ended, rfl⟩

theorem marks_run_of_gone {scene : DeliveryScene} (ended : Ended scene) (events : List DeliveryEvent) :
    (scene.run events).delivery.marks = scene.delivery.marks := by
  induction events generalizing scene with
  | nil => rfl
  | cons first rest ih =>
    obtain ⟨still, same⟩ := ended.happen first
    exact (ih still).trans same

/-! ### Every interleaving -/

/-- **What is pending**, when so many sets were put into the queue. -/
structure CountsPending (entered : List (List Report)) (scene : DeliveryScene) : Prop where
  taken_le : scene.taken.length ≤ entered.length
  /-- The sets that the worker did not take are pending, and so is the mark. -/
  pending_eq : scene.delivery.pending = (entered.length - scene.taken.length) + scene.delivery.marks
  marks_le_one : scene.delivery.marks ≤ 1
  /-- The sets that the worker did not take are all that is pending exactly when the mark is not in the queue. -/
  pending_eq_iff : scene.delivery.pending = entered.length - scene.taken.length ↔ .stop ∉ scene.delivery.queue
  /-- The mark comes with the end of a stop. -/
  completed_of_mark : .stop ∈ scene.delivery.queue → scene.completed = true
  /-- Once a stop is complete, the mark is in the queue or the worker is gone, -/
  gone_or_mark : scene.completed = true → scene.delivery.worker = .gone ∨ .stop ∈ scene.delivery.queue
  /-- and whichever it is then, with the mark or without it, lasts for ever. -/
  marks_eq_later : scene.completed = true → scene.delivery.worker = .gone →
    ∀ later, (scene.run later).delivery.marks = scene.delivery.marks

/-- **What is pending in every interleaving** of senders, a start, stops and the worker: the sets that were put
into the queue less those that the worker took, and one more while the mark of a stop is in the queue. -/
theorem run_countsPending (sinks : List Sink) (config : Config) (events : List DeliveryEvent) :
    CountsPending (DeliveryEvent.entered events) ((of sinks config).run events) := by
  have orderly := orderly_run (orderly_of sinks config) events
  have halting := halting_run (halting_of sinks config) events
  rw [List.nil_append] at orderly
  generalize (of sinks config).run events = scene at orderly halting ⊢
  have account : scene.taken.length + scene.delivery.queued.length = (DeliveryEvent.entered events).length := by
    rw [← List.length_append, orderly.taken_append_queued]
  have pending_eq := scene.delivery.pending_eq
  have mark_iff := scene.delivery.stop_mem_iff
  refine ⟨by omega, by omega, Nat.le_trans halting.marks_le (Bool.toNat_le _), ?_, fun marked => ?_,
    orderly.marked, fun completed gone => marks_run_of_gone ⟨completed, gone⟩⟩
  · rw [mark_iff]
    omega
  · have some := Nat.lt_of_lt_of_le (mark_iff.1 marked) halting.marks_le
    cases complete : scene.completed with
    | true => rfl
    | false =>
      rw [complete] at some
      exact absurd some (Nat.lt_irrefl 0)

/-- A sink that stops the delivery. -/
def stopper : Sink := fun _ _ _ => ⟨true, none⟩

/-- A set is put into the queue, the worker takes it, and the sink that gets it stops the delivery; so the worker
sees the signal before it comes to the queue again. -/
def signalledWorker : List DeliveryEvent :=
  [.enqueue [], .beginStart, .launch, .work, .work, .work, .work, .work, .work]

/-- **The worker has taken the one set there was, and one set is pending.** -/
theorem pending_of_signalledWorker :
    let scene := (of [stopper] .default).run signalledWorker
    (DeliveryEvent.entered signalledWorker).length = 1 ∧ scene.taken.length = 1 ∧ scene.delivery.pending = 1 ∧
      scene.delivery.pending ≠ (DeliveryEvent.entered signalledWorker).length - scene.taken.length := by
  refine ⟨rfl, rfl, rfl, ?_⟩
  intro same
  cases same

end DeliveryScene

end HostWatch
