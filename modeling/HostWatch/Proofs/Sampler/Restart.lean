/-
**Starts of a sampler that fail.**

A start of a sampler first starts the recipient of its reports and then registers its tasks. A task is refused
when one of its delays is no finite number of seconds, and the start fails then. What becomes of the service
is up to the service, which drops the tasks; nobody takes the start of the recipient back.

* `SamplingPlan.fault?`, `Sampler.fault?`: what is wrong with the delays of the tasks.
* `Sampler.registerTasks_of_fault`, `exists_registerTasks`: **when the tasks are registered.**
* `Sampler.start_of_fault`, `exists_start`, `start_fails_iff`: what a start does, by its delays.
* `Sampler.start_again`, `starts_again`: a sampler whose delivery runs refuses a start and stays as it is, by
  induction however many starts there are.
* `Sampler.start_rollsBack`: **what a start that fails leaves behind.** The service awaits its start again,
  without tasks and without a thread. The sampler is as before exactly when it has no recipient; a recipient
  is left started, and a delivery makes all later starts fail.
* `Sampler.start_of_endlessPlan`: a start that fails, and its delivery that runs.
-/

import HostWatch.Proofs.Service.Preparation

namespace HostWatch

/-! ### Delays -/

/-- The fault that a computation ends with, if it does. -/
def ArithmeticFault.of? : Except ArithmeticFault Binary64 → Option ArithmeticFault
  | .error fault => some fault
  | .ok _ => none

theorem ArithmeticFault.of?_eq_some {outcome : Except ArithmeticFault Binary64} {fault : ArithmeticFault}
    (fails : of? outcome = some fault) : outcome = .error fault := by
  cases outcome with
  | error other => rw [Option.some.inj fails]
  | ok x => cases fails

theorem ArithmeticFault.of?_eq_none {outcome : Except ArithmeticFault Binary64}
    (succeeds : of? outcome = none) : ∃ x, outcome = .ok x := by
  cases outcome with
  | error fault => cases succeeds
  | ok x => exact ⟨x, rfl⟩

-- The cases are on an outcome, not on the seconds of a plan, so that nothing unfolds the binary quotients.
/-- What is wrong with the delays of a plan, if one of them is no finite number of seconds. -/
def SamplingPlan.fault? (plan : SamplingPlan) : Option ArithmeticFault :=
  (ArithmeticFault.of? (seconds plan.delay)).or (ArithmeticFault.of? (seconds plan.interval))

namespace Background

variable {A : Type} {service after : Background A} {plan : SamplingPlan}

/-- A service that awaits its start, perhaps after starts that failed. -/
structure AwaitsStart (service : Background A) : Prop where
  created : service.stage = .created
  threadless : service.thread? = none
  absent : service.runner = .absent

theorem AwaitsStart.failStart (awaits : service.AwaitsStart) (stage : Lifecycle) :
    ({ service with stage := stage }.failStart).AwaitsStart :=
  ⟨rfl, awaits.threadless, awaits.absent⟩

theorem schedule_of_fault {fault : ArithmeticFault} (wrong : plan.fault? = some fault)
    (service : Background A) (now : Int) (name : String) (action : A) :
    service.schedule now name action plan.delay plan.interval = .error (.arithmetic fault) := by
  unfold SamplingPlan.fault? at wrong
  unfold schedule
  cases first : ArithmeticFault.of? (SamplingPlan.seconds plan.delay) with
  | some other =>
    rw [first, Option.some_or] at wrong
    obtain rfl := Option.some.inj wrong
    rw [ArithmeticFault.of?_eq_some first]
    rfl
  | none =>
    rw [first, Option.none_or] at wrong
    obtain ⟨delay, told⟩ := ArithmeticFault.of?_eq_none first
    rw [told, ArithmeticFault.of?_eq_some wrong]
    rfl

/-- A service without a thread takes the task of a plan with which nothing is wrong, and stays without one. -/
theorem exists_schedule (right : plan.fault? = none) (threadless : service.thread? = none) (now : Int)
    (name : String) (action : A) :
    ∃ after, service.schedule now name action plan.delay plan.interval = .ok after ∧
      after.thread? = none := by
  obtain ⟨first, again⟩ := Option.or_eq_none_iff.1 right
  obtain ⟨delay, delay_eq⟩ := ArithmeticFault.of?_eq_none first
  obtain ⟨interval, interval_eq⟩ := ArithmeticFault.of?_eq_none again
  unfold schedule
  rw [delay_eq, interval_eq]
  exact ⟨_, register_of_no_thread threadless name action _ _, threadless⟩

end Background

/-! ### Recipients -/

namespace Recipient

/-- A recipient that was not started. -/
def AwaitsStart : Recipient → Prop
  | delivery d => d.stage = .created
  | recorder r => r.running = false

/-- A recipient after a start that it does not refuse. -/
def started : Recipient → Recipient
  | delivery d => delivery { d with stage := .running, worker := .checking }
  | recorder r => recorder { r with running := true }

theorem start_of_awaitsStart {recipient : Recipient} (awaits : recipient.AwaitsStart) :
    recipient.start = .ok recipient.started := by
  cases recipient with
  | recorder r => rfl
  | delivery d =>
    have created : d.stage = .created := awaits
    show d.start.map delivery = _
    unfold Delivery.start
    rw [created]
    rfl

theorem start_of_running {d : Delivery} (runs : d.stage = .running) :
    (delivery d).start = .error (.service (.notStartable Delivery.name .running)) := by
  show d.start.map delivery = _
  unfold Delivery.start
  rw [runs]
  rfl

/-- A start makes a difference. -/
theorem started_ne {recipient : Recipient} (awaits : recipient.AwaitsStart) :
    recipient.started ≠ recipient := by
  intro same
  cases recipient with
  | recorder r =>
    have stays : true = r.running := congrArg Recorder.running (Recipient.recorder.inj same)
    have idle : r.running = false := awaits
    rw [idle] at stays
    cases stays
  | delivery d =>
    have stays : Lifecycle.running = d.stage := congrArg Delivery.stage (Recipient.delivery.inj same)
    have created : d.stage = .created := awaits
    rw [created] at stays
    cases stays

end Recipient

/-! ### One start -/

namespace Sampler

/-- What is wrong with the delays of the tasks of a sampler, if something is. -/
def fault? (sampler : Sampler) : Option ArithmeticFault :=
  sampler.samplePlan.fault?.or (sampler.analyst?.bind fun _ => sampler.problemPlan.fault?)

theorem registerTasks_of_fault {sampler : Sampler} {fault : ArithmeticFault}
    (wrong : sampler.fault? = some fault) {service : Background SamplerTask}
    (threadless : service.thread? = none) (now : Int) :
    registerTasks now sampler service = .error (.arithmetic fault) := by
  unfold fault? at wrong
  unfold registerTasks register
  cases samples : sampler.samplePlan.fault? with
  | some first =>
    rw [samples, Option.some_or] at wrong
    obtain rfl := Option.some.inj wrong
    rw [Background.schedule_of_fault samples]
    rfl
  | none =>
    obtain ⟨next, taken, -⟩ :=
      Background.exists_schedule samples threadless now SamplerTask.sample.name .sample
    rw [samples, Option.none_or] at wrong
    rw [taken]
    cases found : sampler.analyst? with
    | none =>
      rw [found] at wrong
      cases wrong
    | some analyst =>
      rw [found, Option.bind_some] at wrong
      -- The first task is in, and the second one is refused.
      have refused := Background.schedule_of_fault wrong next now SamplerTask.diagnose.name .diagnose
      exact (pure_bind next _).trans refused

/-- **The tasks are registered when nothing is wrong with their delays.** -/
theorem exists_registerTasks {sampler : Sampler} (right : sampler.fault? = none)
    {service : Background SamplerTask} (threadless : service.thread? = none) (now : Int) :
    ∃ ready, registerTasks now sampler service = .ok ready := by
  unfold fault? at right
  obtain ⟨samples, problems⟩ := Option.or_eq_none_iff.1 right
  obtain ⟨next, taken, still⟩ :=
    Background.exists_schedule samples threadless now SamplerTask.sample.name .sample
  unfold registerTasks register
  rw [taken]
  cases found : sampler.analyst? with
  | none => exact ⟨next, rfl⟩
  | some analyst =>
    rw [found, Option.bind_some] at problems
    obtain ⟨ready, done, -⟩ :=
      Background.exists_schedule problems still now SamplerTask.diagnose.name .diagnose
    exact ⟨ready, (pure_bind next _).trans done⟩

/-- The sampler whose recipient, if there is one, is started. -/
def withRecipientStarted (sampler : Sampler) : Sampler :=
  { sampler with recipient? := sampler.recipient?.map Recipient.started }

/-- A sampler and its service before a start, the recipient not started either. -/
structure AwaitsStart (running : Running) : Prop where
  service : running.1.AwaitsStart
  recipient : ∀ recipient, running.2.recipient? = some recipient → recipient.AwaitsStart

section Start

variable {service : Background SamplerTask} {sampler : Sampler}

theorem prepare_eq (fresh : ∀ recipient, sampler.recipient? = some recipient → recipient.AwaitsStart)
    (now : Int) (begun : Background SamplerTask) :
    prepare now sampler begun = (registerTasks now sampler begun, sampler.withRecipientStarted) := by
  unfold prepare withRecipientStarted
  cases given : sampler.recipient? with
  | none =>
    show (_, sampler) = (_, { sampler with recipient? := none })
    rw [← given]
  | some recipient =>
    dsimp only
    rw [Recipient.start_of_awaitsStart (fresh recipient given)]
    rfl

/-- **A start with wrong delays** fails, and leaves the recipient started. -/
theorem start_of_fault (awaits : AwaitsStart (service, sampler)) {fault : ArithmeticFault}
    (wrong : sampler.fault? = some fault) (thread : Nat) (now : Int) :
    start thread now (service, sampler) =
      (.error (.arithmetic fault), { service with stage := .running }.failStart,
        sampler.withRecipientStarted) := by
  have threadless : ({ service with stage := .running } : Background SamplerTask).thread? = none :=
    awaits.service.threadless
  unfold start
  dsimp only
  rw [Background.beginStart_of_created awaits.service.created]
  dsimp only
  rw [prepare_eq awaits.recipient, registerTasks_of_fault wrong threadless]

theorem exists_start (awaits : AwaitsStart (service, sampler)) (right : sampler.fault? = none)
    (thread : Nat) (now : Int) :
    ∃ ready, start thread now (service, sampler) = (.ok (), ready, sampler.withRecipientStarted) := by
  have threadless : ({ service with stage := .running } : Background SamplerTask).thread? = none :=
    awaits.service.threadless
  obtain ⟨ready, done⟩ := exists_registerTasks right threadless now
  refine ⟨ready.launch thread, ?_⟩
  unfold start
  dsimp only
  rw [Background.beginStart_of_created awaits.service.created]
  dsimp only
  rw [prepare_eq awaits.recipient, done]

/-- A start that fails does so by its delays, and then it is known what it leaves. -/
theorem eq_of_start_error (awaits : AwaitsStart (service, sampler)) {thread : Nat} {now : Int}
    {failure : Failure} {after : Running} (fails : start thread now (service, sampler) = (.error failure, after)) :
    ∃ fault, sampler.fault? = some fault ∧ failure = .arithmetic fault ∧
      after = ({ service with stage := .running }.failStart, sampler.withRecipientStarted) := by
  cases delays : sampler.fault? with
  | none =>
    obtain ⟨ready, succeeds⟩ := exists_start awaits delays thread now
    rw [succeeds] at fails
    cases (Prod.mk.inj fails).1
  | some fault =>
    rw [start_of_fault awaits delays] at fails
    obtain ⟨same, rfl⟩ := Prod.mk.inj fails
    exact ⟨fault, rfl, (Except.error.inj same).symm, rfl⟩

/-- **When a start fails.** -/
theorem start_fails_iff (awaits : AwaitsStart (service, sampler)) (thread : Nat) (now : Int)
    (failure : Failure) :
    (start thread now (service, sampler)).1 = .error failure ↔
      ∃ fault, sampler.fault? = some fault ∧ failure = .arithmetic fault := by
  constructor
  · intro fails
    obtain ⟨fault, wrong, failure_eq, -⟩ := eq_of_start_error awaits (Prod.ext fails rfl)
    exact ⟨fault, wrong, failure_eq⟩
  · rintro ⟨fault, wrong, rfl⟩
    rw [start_of_fault awaits wrong]

end Start

/-! ### Starts again -/

/-- A sampler before a start whose delivery runs already. -/
structure HasRunningDelivery (running : Running) : Prop where
  service : running.1.AwaitsStart
  runs : ∃ d, running.2.recipient? = some (.delivery d) ∧ d.stage = .running

/-- **A sampler whose delivery runs refuses a start** and stays as it is. -/
theorem start_again {running : Running} (stuck : HasRunningDelivery running) (thread : Nat) (now : Int) :
    (start thread now running).1 = .error (.service (.notStartable Delivery.name .running)) ∧
      HasRunningDelivery (start thread now running).2 := by
  obtain ⟨service, sampler⟩ := running
  obtain ⟨awaits, d, given, runs⟩ := stuck
  have given : sampler.recipient? = some (.delivery d) := given
  have fails : start thread now (service, sampler) =
      (.error (.service (.notStartable Delivery.name .running)),
        { service with stage := .running }.failStart, sampler) := by
    unfold start
    dsimp only
    rw [Background.beginStart_of_created awaits.created]
    dsimp only
    unfold prepare
    rw [given]
    dsimp only
    rw [Recipient.start_of_running runs]
  rw [fails]
  exact ⟨rfl, awaits.failStart _, d, given, runs⟩

/-- Some starts, each with the number of its thread and its moment. -/
def starts (running : Running) (calls : List (Nat × Int)) : Running :=
  calls.foldl (fun running (thread, now) => (start thread now running).2) running

theorem starts_again {running : Running} (stuck : HasRunningDelivery running) (calls : List (Nat × Int)) :
    HasRunningDelivery (starts running calls) := by
  induction calls generalizing running with
  | nil => exact stuck
  | cons call rest ih => exact ih (start_again stuck call.1 call.2).2

/-! ### What is left behind -/

theorem withRecipientStarted_eq_self_iff {sampler : Sampler}
    (fresh : ∀ recipient, sampler.recipient? = some recipient → recipient.AwaitsStart) :
    sampler.withRecipientStarted = sampler ↔ sampler.recipient? = none := by
  constructor
  · intro same
    cases given : sampler.recipient? with
    | none => rfl
    | some recipient =>
      have stays : sampler.recipient?.map Recipient.started = sampler.recipient? :=
        congrArg Sampler.recipient? same
      rw [given] at stays
      exact absurd (Option.some.inj stays) (Recipient.started_ne (fresh recipient given))
  · intro given
    unfold withRecipientStarted
    rw [given]
    show { sampler with recipient? := none } = sampler
    rw [← given]

/-- **What a start leaves behind when it fails.** -/
structure RollsBack (thread : Nat) (now : Int) (running : Running) : Prop where
  /-- A start fails exactly when something is wrong with the delays of the tasks. -/
  fails_iff : ∀ failure, (start thread now running).1 = .error failure ↔
    ∃ fault, running.2.fault? = some fault ∧ failure = .arithmetic fault
  /-- The service awaits its start again, without tasks and without a thread. -/
  service : ∀ failure after, start thread now running = (.error failure, after) →
    after.1.AwaitsStart ∧ after.1.agenda = []
  /-- Nothing of the sampler changes but the recipient, which is left started. -/
  sampler : ∀ failure after, start thread now running = (.error failure, after) →
    after.2 = running.2.withRecipientStarted ∧ (after.2 = running.2 ↔ running.2.recipient? = none)
  /-- Without a recipient a following start comes out as this one did. -/
  again : running.2.recipient? = none → ∀ failure after, start thread now running = (.error failure, after) →
    ∀ nextThread later, (start nextThread later after).1 = .error failure
  /-- With a delivery no following start comes out well, however many there are, and none of them even gets to
  the tasks. -/
  stuck : ∀ d, running.2.recipient? = some (.delivery d) →
    ∀ failure after, start thread now running = (.error failure, after) →
    ∀ calls nextThread later, (start nextThread later (starts after calls)).1 =
      .error (.service (.notStartable Delivery.name .running))

/-- **What a start of any sampler leaves behind**, when the service and the recipient await their starts. A thread that
cannot be created is no part of it: here the launch of a thread never fails. -/
theorem start_rollsBack {running : Running} (awaits : AwaitsStart running) (thread : Nat) (now : Int) :
    RollsBack thread now running := by
  obtain ⟨service, sampler⟩ := running
  refine ⟨start_fails_iff awaits thread now, ?_, ?_, ?_, ?_⟩
  · intro failure after fails
    obtain ⟨fault, -, -, rfl⟩ := eq_of_start_error awaits fails
    exact ⟨awaits.service.failStart _, rfl⟩
  · intro failure after fails
    obtain ⟨fault, -, -, rfl⟩ := eq_of_start_error awaits fails
    exact ⟨rfl, withRecipientStarted_eq_self_iff awaits.recipient⟩
  · intro nobody failure after fails nextThread later
    obtain ⟨fault, wrong, failure_eq, rfl⟩ := eq_of_start_error awaits fails
    have same : sampler.withRecipientStarted = sampler :=
      (withRecipientStarted_eq_self_iff awaits.recipient).2 nobody
    have awaitsAgain : AwaitsStart ({ service with stage := .running }.failStart, sampler) :=
      ⟨awaits.service.failStart _, awaits.recipient⟩
    rw [same]
    exact (start_fails_iff awaitsAgain nextThread later failure).2 ⟨fault, wrong, failure_eq⟩
  · intro d given failure after fails calls nextThread later
    obtain ⟨fault, -, -, rfl⟩ := eq_of_start_error awaits fails
    have given : sampler.recipient? = some (.delivery d) := given
    have runs : HasRunningDelivery ({ service with stage := .running }.failStart,
        sampler.withRecipientStarted) := by
      refine ⟨awaits.service.failStart _, { d with stage := .running, worker := .checking }, ?_, rfl⟩
      show sampler.recipient?.map Recipient.started = _
      rw [given]
      rfl
    exact (start_again (starts_again runs calls) nextThread later).1

/-! ### A plan without end -/

/-- A plan with more time between two samples than there are binary seconds for. -/
def endlessPlan : SamplingPlan :=
  { SamplingPlan.forSamples with
    interval := Nat.pow 10 312
    one_le_interval := by decide +kernel }

/-- A sampler by this plan with a delivery, and its service, before the first start. -/
def endless : Running :=
  (.of .binarySeconds name,
    of endlessPlan .forProblems (fun _ => .of .nothing) .none .empty none
      (some (.delivery (.of [] .default))) (.ofHost .bare))

theorem awaitsStart_endless : AwaitsStart endless := by
  refine ⟨⟨rfl, rfl, rfl⟩, fun recipient given => ?_⟩
  have given : some (Recipient.delivery (.of [] .default)) = some recipient := given
  obtain rfl := Option.some.inj given
  rfl

theorem fault?_endless : endless.2.fault? = some .quotientTooLarge := by decide +kernel

theorem start_rollsBack_endless : AwaitsStart endless ∧ RollsBack 1 0 endless :=
  ⟨awaitsStart_endless, start_rollsBack awaitsStart_endless 1 0⟩

/-- **A start that fails leaves the delivery running**, and the next start is refused for that. -/
theorem start_of_endlessPlan :
    ∃ after, start 1 0 endless = (.error (.arithmetic .quotientTooLarge), after) ∧
      after.1.stage = .created ∧
      (∃ d, after.2.recipient? = some (.delivery d) ∧ d.stage = .running ∧ d.isAlive) ∧
      (start 2 0 after).1 = .error (.service (.notStartable Delivery.name .running)) := by
  refine ⟨_, start_of_fault awaitsStart_endless fault?_endless 1 0, rfl, ⟨_, rfl, rfl, rfl⟩, ?_⟩
  have runs : HasRunningDelivery ({ endless.1 with stage := .running }.failStart,
      endless.2.withRecipientStarted) :=
    ⟨awaitsStart_endless.service.failStart _, _, rfl, rfl⟩
  exact (start_again runs 2 0).1

end Sampler

end HostWatch
