/-
**Rehearsals of a service.**

In a rehearsal the tasks of a service follow scripts: a run takes a time, then calls the service, and
then ends well or fails. The rehearsal notes what happens and when. The service registers its tasks at
its start; the start then fails as often as it is told to, and the release at its stop may fail too.
-/
import HostWatch.Service.Timeline

namespace HostWatch

/-- What a run may ask of its service. -/
inductive ServiceCall where
  | stop
  | start
  | execute
deriving DecidableEq

/-- A run as it is scripted. -/
structure ScriptedRun where
  /-- The time that it takes, in milliseconds. -/
  cost : Int
  calls : List ServiceCall
  /-- The error that it ends in, if it does. -/
  error? : Option ReportedError

def ScriptedRun.outcome (run : ScriptedRun) : Except Failure Unit :=
  match run.error? with
  | some error => .error (.reported error)
  | none => .ok ()

/-- A task as it is scripted. -/
structure Script where
  name : String
  /-- The delay from the end of a run to the next one, nothing for a task that runs once. -/
  delay? : Option Int
  /-- The delay to the first run of a task that runs again and again. -/
  initial : Int
  /-- The runs; the last one repeats. -/
  runs : List ScriptedRun

/-- The run that follows so many others. -/
def Script.run (script : Script) (before : Nat) : ScriptedRun :=
  ((script.runs[before]?).or script.runs.getLast?).getD ⟨0, [], none⟩

/-- What a rehearsal notes. -/
inductive Remark where
  | began (task : String)
  /-- A run of a task asked something of the service, which may have failed. -/
  | called (task : String) (call : ServiceCall) (failure? : Option Failure)
  /-- A run of a task ended, well or not. -/
  | ended (task : String) (failed : Bool)
  | stopped

/-- The world of a rehearsal. -/
structure Rehearsal where
  tasks : List Script
  startErrors : List (Option ReportedError)
  /-- The error of the release at a stop, if there is one. -/
  stopError? : Option ReportedError
  nextThread : Nat
  /-- The registration numbers of the tasks of the runs that began. -/
  begun : List Nat
  remarks : List (Int × Remark)

namespace Rehearsal

/-- A service and the world of its rehearsal. -/
abbrev Scene := Background Script × Rehearsal

def note (rehearsal : Rehearsal) (now : Int) (remark : Remark) : Rehearsal :=
  { rehearsal with remarks := rehearsal.remarks ++ [(now, remark)] }

def extra : Script := ⟨"extra", none, 0, []⟩

def register (now : Int) (script : Script) (service : Background Script) :
    Except Failure (Background Script) :=
  match script.delay? with
  | none => service.execute now script.name script
  | some delay => service.schedule now script.name script script.initial delay

/-- What the service does at its start before it runs its tasks. -/
def prepare (now : Int) (rehearsal : Rehearsal) (service : Background Script) :
    Except Failure (Background Script) := do
  let service ← rehearsal.tasks.foldlM (fun service script => register now script service) service
  match rehearsal.startErrors.head? with
  | some (some error) => .error (.reported error)
  | _ => return service

def start (now : Int) (scene : Scene) : Except Failure Unit × Scene :=
  let (service, rehearsal) := scene
  match service.beginStart with
  | .error failure => (.error failure, scene)
  | .ok service =>
    let after := { rehearsal with startErrors := rehearsal.startErrors.tail }
    match prepare now rehearsal service with
    | .error failure => (.error failure, service.failStart, after)
    | .ok service => (.ok (), service.launch rehearsal.nextThread,
        { after with nextThread := rehearsal.nextThread + 1 })

def stop (now : Int) (scene : Scene) : Except Failure Unit × Scene :=
  match scene.1.stop? with
  | none => (.ok (), scene)
  | some service =>
    (match scene.2.stopError? with
      | some error => .error (.reported error)
      | none => .ok (), service, scene.2.note now .stopped)

/-- A registration from outside of the start. -/
def schedule (now : Int) (script : Script) (scene : Scene) : Except Failure Unit × Scene :=
  match register now script scene.1 with
  | .error failure => (.error failure, scene)
  | .ok service => (.ok (), service, scene.2)

def answer (now : Int) (scene : Scene) : ServiceCall → Except Failure Unit × Scene
  | .stop => stop now scene
  | .start => start now scene
  | .execute => schedule now extra scene

/-- A run asks something of the service, and notes whether it failed. -/
def ask (task : String) (now : Int) (scene : Scene) (call : ServiceCall) : Scene :=
  let (outcome, service, rehearsal) := answer now scene call
  let failure? := match outcome with
    | .error failure => some failure
    | .ok () => none
  (service, rehearsal.note now (.called task call failure?))

/-- How many runs of a task began. -/
def runsOf (rehearsal : Rehearsal) (task : Task Script) : Nat :=
  (rehearsal.begun.filter (· = task.number)).length

def conduct : Conduct Script Rehearsal where
  begin task now rehearsal :=
    ((task.action.run (rehearsal.runsOf task)).cost,
      { rehearsal.note now (.began task.name) with begun := rehearsal.begun ++ [task.number] })
  finish task now scene :=
    let run := task.action.run (scene.2.runsOf task - 1)
    let (service, rehearsal) := run.calls.foldl (ask task.name now) scene
    (run.outcome, service, rehearsal.note now (.ended task.name run.error?.isSome))

/-- A rehearsal of a service with a name, before its start. -/
def of (name : String) (now : Int) (tasks : List Script) (startErrors : List (Option ReportedError))
    (stopError? : Option ReportedError) : Timeline Script Rehearsal :=
  ⟨.of .binarySeconds name, now, ⟨tasks, startErrors, stopError?, 1, [], []⟩⟩

end Rehearsal

/-- One step of a rehearsal from outside, after which the thread goes on. -/
def Timeline.act (line : Timeline Script Rehearsal)
    (step : Int → Rehearsal.Scene → Except Failure Unit × Rehearsal.Scene) :
    Except Failure Unit × Timeline Script Rehearsal :=
  let (outcome, service, world) := step line.clock (line.service, line.world)
  (outcome, Timeline.settle Rehearsal.conduct ⟨service, line.clock, world⟩)

end HostWatch
