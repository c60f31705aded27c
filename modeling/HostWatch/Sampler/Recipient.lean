/-
**Those who receive the sets of reports.**

The sets that a sampler keeps go to a delivery, or to a recorder, which only writes them down. A delivery can
be started once, a recorder again and again.
-/
import HostWatch.Notice.Delivery

namespace HostWatch

/-- Someone who writes down what is handed over. -/
structure Recorder where
  /-- Whether the recorder was started and not stopped since. -/
  running : Bool
  /-- The last configuration, if there was one. -/
  config? : Option Config
  /-- The sets of reports, the first one in front. -/
  sets : List (List Report)

namespace Recorder

/-- A recorder before its start. -/
def fresh : Recorder := ⟨false, none, []⟩

end Recorder

/-- Who receives the sets of reports. -/
inductive Recipient where
  | delivery (delivery : Delivery)
  /-- A recorder. -/
  | recorder (recorder : Recorder)

namespace Recipient

/-- A start, which a delivery may refuse. -/
def start : Recipient → Except Failure Recipient
  | delivery d => d.start.map delivery
  | recorder r => .ok (recorder { r with running := true })

def stop : Recipient → Recipient
  | delivery d => delivery d.stop
  | recorder r => recorder { r with running := false }

def configure (config : Config) : Recipient → Recipient
  | delivery d => delivery (d.configure config)
  | recorder r => recorder { r with config? := some config }

def enqueue (reports : List Report) : Recipient → Recipient
  | delivery d => delivery (d.enqueue reports)
  | recorder r => recorder { r with sets := r.sets ++ [reports] }

/-- The recorder, if it is one. -/
def recorder? : Recipient → Option Recorder
  | delivery _ => none
  | recorder r => some r

end Recipient

end HostWatch
