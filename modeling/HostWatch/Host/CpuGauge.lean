/-
**Gauges of CPU usage.**

A gauge captures counters, and computes the usage between two captures. A capture can be unavailable for
the moment, or fail. A meter reads a gauge again and again: each reading gives the usage since the
reading before.

* `CpuGauge.read` is one reading. It does not fail: where a capture or a computation failed there is no
  usage, and where there is nothing to compare with the usage is none at all.
-/
import HostWatch.Usage.Cpu

namespace HostWatch

/-- A way to measure CPU usage. -/
structure CpuGauge (m : Type → Type) (Capture : Type) where
  /-- Captures the counters, if they are available. -/
  capture : m (Option Capture)
  /-- The usage between an earlier and a later capture. -/
  usage : Capture → Capture → m CpuUsage

/-- What a reading leaves behind and what it shows. -/
structure CpuReading (Capture : Type) where
  /-- The capture with which the next reading compares. -/
  previous : Option Capture
  /-- The usage, if it could be measured. -/
  usage : Option CpuUsage

namespace CpuGauge

variable {m : Type → Type} {Capture ε : Type} [Monad m] [MonadExcept ε m]

/-- The outcome of a computation that may fail, without the failure. -/
def attempt {α : Type} (computation : m α) : m (Option α) :=
  tryCatch (some <$> computation) fun _ => pure none

/-- Reads a gauge, given the capture of the reading before. A capture that fails leaves that one in
place; one that is not available does not. -/
def read (gauge : CpuGauge m Capture) (previous : Option Capture) : m (CpuReading Capture) := do
  match ← attempt gauge.capture with
  | none => return ⟨previous, none⟩
  | some capture =>
    match previous, capture with
    | some earlier, some later =>
      return ⟨capture, ← attempt (gauge.usage earlier later)⟩
    | _, _ => return ⟨capture, some .idle⟩

end CpuGauge

end HostWatch
