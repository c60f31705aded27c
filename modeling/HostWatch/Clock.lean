/-
**Units of time.**
-/
import HostWatch.Number

namespace HostWatch

/-- The number of nanoseconds in a millisecond. -/
def nanosPerMilli : Int := 1000000

/-- A number of milliseconds on a clock that counts nanoseconds, in seconds. -/
def clockSeconds (milliseconds : Int) : Binary64 :=
  (Binary64.ofInt (milliseconds * nanosPerMilli)).div (Binary64.ofInt 1000000000)

end HostWatch
