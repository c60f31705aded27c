/-
**Dates and times of day.**

A date is a day of the calendar that is in use today, extended to all years from 1 to 9999. A time is a
date with a time of day in microseconds and, if it is known, the offset of the local time from the
universal one in minutes. Both are written in two forms: as one writes them, and as the call that makes
them.

* `CalendarDate.of` and `CalendarTime.of` refuse what is no date or time, and say which part is wrong.
-/

namespace HostWatch

/-- What is wrong with a date or a time. -/
inductive CalendarFault where
  /-- There is no such year. -/
  | year (year : Nat)
  /-- There is no such month. -/
  | month
  /-- The month has no such day. -/
  | day
  /-- There is no such hour. -/
  | hour
  /-- There is no such minute. -/
  | minute
  /-- There is no such second. -/
  | second
  | offset (minutes : Int)
deriving DecidableEq

def minutesInDay : Nat := 1440

/-- A span of some minutes, as the call that makes it: days, and seconds that are never negative. -/
def minutesCall (minutes : Int) : String :=
  let days := minutes / minutesInDay
  let seconds := minutes % minutesInDay * 60
  let parts := (if days = 0 then [] else [s!"days={days}"]) ++
    if seconds = 0 then [] else [s!"seconds={seconds}"]
  "datetime.timedelta(" ++ (if parts.isEmpty then "0" else ", ".intercalate parts) ++ ")"

def CalendarFault.message : CalendarFault → String
  | year n => s!"year {n} is out of range"
  | month => "month must be in 1..12"
  | day => "day is out of range for month"
  | hour => "hour must be in 0..23"
  | minute => "minute must be in 0..59"
  | second => "second must be in 0..59"
  | offset n =>
    "offset must be a timedelta strictly between -timedelta(hours=24) and timedelta(hours=24), not " ++
      minutesCall n ++ "."

/-- A number with zeros in front, up to so many digits. -/
def zeroPadded (width n : Nat) : String :=
  let digits := Nat.toDigits 10 n
  String.ofList (List.replicate (width - digits.length) '0' ++ digits)

/-- A date. -/
structure CalendarDate where
  year : Nat
  month : Nat
  day : Nat
deriving DecidableEq

namespace CalendarDate

def isLeap (year : Nat) : Bool := year % 4 = 0 && (year % 100 ≠ 0 || year % 400 = 0)

def daysIn (year month : Nat) : Nat :=
  if month = 2 then (if isLeap year then 29 else 28)
  else if [4, 6, 9, 11].contains month then 30
  else 31

/-- The date with a year, a month and a day. -/
def of (year month day : Nat) : Except CalendarFault CalendarDate :=
  if year < 1 ∨ 9999 < year then .error (.year year)
  else if month < 1 ∨ 12 < month then .error .month
  else if day < 1 ∨ daysIn year month < day then .error .day
  else .ok ⟨year, month, day⟩

/-- The number of days from the first day of the year 1 to a date, both included. -/
def dayNumber (date : CalendarDate) : Nat :=
  let years := date.year - 1
  let months := (List.range (date.month - 1)).map fun month => daysIn date.year (month + 1)
  365 * years + years / 4 - years / 100 + years / 400 + months.foldr (· + ·) 0 + date.day

def toText (date : CalendarDate) : String :=
  zeroPadded 4 date.year ++ "-" ++ zeroPadded 2 date.month ++ "-" ++ zeroPadded 2 date.day

def call (date : CalendarDate) : String :=
  s!"datetime.date({date.year}, {date.month}, {date.day})"

end CalendarDate

/-- A time of day on a date. -/
structure CalendarTime where
  date : CalendarDate
  hour : Nat
  minute : Nat
  /-- The second. -/
  second : Nat
  /-- The microsecond. -/
  microsecond : Nat
  /-- How far the local time is ahead of the universal one, in minutes, if that is known. -/
  offset? : Option Int
deriving DecidableEq

namespace CalendarTime

/-- The time with an offset, a year, a month, a day, an hour, a minute, a second and a microsecond, which
are looked at in this order. -/
def of (offset? : Option Int) (year month day hour minute second microsecond : Nat) :
    Except CalendarFault CalendarTime := do
  if let some offset := offset? then
    if minutesInDay ≤ offset.natAbs then throw (.offset offset)
  let date ← CalendarDate.of year month day
  if 23 < hour then throw .hour
  else if 59 < minute then throw .minute
  else if 59 < second then throw .second
  else return ⟨date, hour, minute, second, microsecond, offset?⟩

/-- The number of microseconds from the start of the year 0 to a time, by its own clock. -/
def reading (time : CalendarTime) : Nat :=
  let minutes := minutesInDay * time.date.dayNumber + 60 * time.hour + time.minute
  (60 * minutes + time.second) * 1000000 + time.microsecond

/-- Whether two times are one: both by the universal clock, or both by a clock that is not known. -/
def isSameAs (time other : CalendarTime) : Bool :=
  match time.offset?, other.offset? with
  | none, none => time.reading == other.reading
  | some a, some b =>
    (time.reading : Int) - a * 60000000 == (other.reading : Int) - b * 60000000
  | _, _ => false

def offsetText (offset : Int) : String :=
  (if offset < 0 then "-" else "+") ++ zeroPadded 2 (offset.natAbs / 60) ++ ":" ++
    zeroPadded 2 (offset.natAbs % 60)

/-- A time as one writes it; microseconds only if there are some. -/
def toText (time : CalendarTime) : String :=
  time.date.toText ++ " " ++ zeroPadded 2 time.hour ++ ":" ++ zeroPadded 2 time.minute ++ ":" ++
    zeroPadded 2 time.second ++
    (if time.microsecond = 0 then "" else "." ++ zeroPadded 6 time.microsecond) ++
    (time.offset?.map offsetText).getD ""

/-- An offset as the call that makes it. -/
def offsetCall (offset : Int) : String :=
  if offset = 0 then "datetime.timezone.utc" else "datetime.timezone(" ++ minutesCall offset ++ ")"

/-- A time as the call that makes it; seconds and microseconds of zero at its end are left out. -/
def call (time : CalendarTime) : String :=
  let clock :=
    if time.microsecond ≠ 0 then [time.hour, time.minute, time.second, time.microsecond]
    else if time.second ≠ 0 then [time.hour, time.minute, time.second]
    else [time.hour, time.minute]
  let figures := [time.date.year, time.date.month, time.date.day] ++ clock
  "datetime.datetime(" ++ ", ".intercalate (figures.map fun (n : Nat) => toString n) ++
    (time.offset?.map fun offset => ", tzinfo=" ++ offsetCall offset).getD "" ++ ")"

end CalendarTime

end HostWatch
