/-
**Time scales.**

The tasks of a service are due at moments of a time scale, which counts its own units. A scale says which
moment lies a delay after a reading of the clock, and how long a wait for a moment lasts; clock, delays and
waits are in milliseconds. On the exact scale moments are milliseconds too. On the scale of binary seconds
a moment is a number of seconds in the binary format, so that a sum is rounded: two moments that should be
one may differ a little, and late on the clock a short delay may be lost.
-/
import HostWatch.Clock

namespace HostWatch

/-- A scale for the moments at which tasks are due. -/
structure TimeScale where
  /-- The moment that lies a delay after a reading of the clock. -/
  due : Int → Int → Int
  /-- How long a wait lasts that begins at a reading of the clock and ends at a moment; it is not positive
  when the moment has come. -/
  wait : Int → Int → Int
  /-- The reading of the clock at a moment. -/
  reading : Int → Int

namespace TimeScale

/-- The scale of milliseconds. -/
def exact : TimeScale where
  due clock delay := clock + delay
  wait clock due := due - clock
  reading due := due

/-- A number of milliseconds in seconds. -/
def delaySeconds (milliseconds : Int) : Binary64 :=
  (Binary64.ofQuotient milliseconds 1000).toOption.getD (Binary64.zero false)

/-- A number of seconds in milliseconds, rounded. -/
def millis (seconds : Binary64) : Int := (seconds.mul (Binary64.ofInt 1000)).nearestInteger

/-- The scale of seconds in the binary format, in units of its smallest value. -/
def binarySeconds : TimeScale where
  due clock delay := ((clockSeconds clock).add (delaySeconds delay)).toUnits
  wait clock due := millis ((Binary64.ofUnits due).sub (clockSeconds clock))
  reading due := millis (Binary64.ofUnits due)

end TimeScale

end HostWatch
