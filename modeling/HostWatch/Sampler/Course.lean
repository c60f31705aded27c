/-
**The sampler as a service.**

As a service the sampler has two tasks: one takes samples and one, if someone looks for problems, has
the samples looked at. Both go on when a run fails. The recipient of the reports starts before the tasks
are registered and stops with the service.
-/
import HostWatch.Sampler.Basic
import HostWatch.Service.Timeline

namespace HostWatch

/-- The tasks of a sampler. -/
inductive SamplerTask where
  | sample
  | diagnose
deriving DecidableEq

def SamplerTask.name : SamplerTask → String
  | sample => "sample_vmstat"
  | diagnose => "sample_problems"

def SamplerTask.run : SamplerTask → Sampling Unit
  | sample => Sampler.sample
  | diagnose => Sampler.diagnose

namespace Sampler

abbrev Running := Background SamplerTask × Sampler

/-- The name of a sampler as a service. -/
def name : String := "Sampler"

/-- Sets the clock of the machine. -/
def atTime (sampler : Sampler) (now : Int) : Sampler :=
  { sampler with machine := { sampler.machine with
      host := { sampler.machine.host with clock := now } } }

/-- Runs a task: how it ends, and the sampler afterwards. -/
def perform (sampler : Sampler) (task : SamplerTask) : Except Failure Unit × Sampler :=
  task.run.run.run sampler

/-- The tasks run without taking time, and go on when they fail. -/
def conduct : Conduct SamplerTask Sampler where
  begin _ _ sampler := (0, sampler)
  finish task now running :=
    let (outcome, sampler) := (running.2.atTime now).perform task.action
    (outcome, running.1, sampler)

def register (now : Int) (task : SamplerTask) (plan : SamplingPlan)
    (service : Background SamplerTask) : Except Failure (Background SamplerTask) :=
  service.schedule now task.name task plan.delay plan.interval

def registerTasks (now : Int) (sampler : Sampler) (service : Background SamplerTask) :
    Except Failure (Background SamplerTask) := do
  let service ← register now .sample sampler.samplePlan service
  match sampler.analyst? with
  | none => return service
  | some _ => register now .diagnose sampler.problemPlan service

/-- What a sampler does at its start: it starts the recipient and then registers its tasks. The recipient
stays started when a task is refused. -/
def prepare (now : Int) (sampler : Sampler) (service : Background SamplerTask) :
    Except Failure (Background SamplerTask) × Sampler :=
  match sampler.recipient? with
  | none => (registerTasks now sampler service, sampler)
  | some recipient =>
    match recipient.start with
    | .error failure => (.error failure, sampler)
    | .ok recipient =>
      (registerTasks now sampler service, { sampler with recipient? := some recipient })

/-- A start, with the number of the thread. -/
def start (thread : Nat) (now : Int) (running : Running) : Except Failure Unit × Running :=
  match running.1.beginStart with
  | .error failure => (.error failure, running)
  | .ok service =>
    match prepare now running.2 service with
    | (.error failure, sampler) => (.error failure, service.failStart, sampler)
    | (.ok service, sampler) => (.ok (), service.launch thread, sampler)

def stop (running : Running) : Running :=
  match running.1.stop? with
  | none => running
  | some service =>
    (service, { running.2 with recipient? := running.2.recipient?.map Recipient.stop })

/-- A sampler with its service before the start, at the moment on the clock of its machine. -/
def course (sampler : Sampler) : Timeline SamplerTask Sampler :=
  ⟨.of .binarySeconds name, sampler.machine.host.clock, sampler⟩

/-- One step from outside, at the moment on the clock of the machine, after which the thread goes on. -/
def act {α : Type} (line : Timeline SamplerTask Sampler)
    (step : Int → Running → Except Failure α × Running) :
    Except Failure α × Timeline SamplerTask Sampler :=
  let now := line.world.machine.host.clock
  let (outcome, service, sampler) := step now (line.service, line.world)
  (outcome, Timeline.settle conduct ⟨service, sampler.machine.host.clock, sampler⟩)

/-- Lets some milliseconds pass. -/
def advance (line : Timeline SamplerTask Sampler) (milliseconds : Int) :
    Timeline SamplerTask Sampler :=
  let limit := line.clock + milliseconds
  let line := line.runUntil conduct limit
  { line with world := line.world.atTime limit }

end Sampler

end HostWatch
