/-!
# Calendar dates and times of day

* `Date` : a day of the proleptic Gregorian calendar, of a year from -262143 to 262142;
* `TimeOfDay` : seconds since midnight and nanoseconds. In a leap second the nanoseconds of second
  59 run on past a thousand million;
* `DateTime` : a date and a time of day; `OffsetDateTime` : a date and time read at an offset from
  UTC, together with the same moment in UTC;
* `Date.dayNumber` : days since 1 January 2000.
-/

namespace PathQuery.Calendar

def isLeapYear (year : Int) : Bool := year % 4 == 0 && (year % 100 != 0 || year % 400 == 0)

def daysInMonth (year : Int) (month : Nat) : Nat :=
  match month with
  | 2 => if isLeapYear year then 29 else 28
  | 4 | 6 | 9 | 11 => 30
  | _ => 31

def isDate (year : Int) (month day : Nat) : Bool :=
  -262143 ≤ year && year ≤ 262142 && 1 ≤ month && month ≤ 12 && 1 ≤ day && day ≤ daysInMonth year month

structure Date where
  year : Int
  month : Nat
  day : Nat
  valid : isDate year month day = true
  deriving DecidableEq

namespace Date

def of? (year : Int) (month day : Nat) : Option Date :=
  if h : isDate year month day = true then some ⟨year, month, day, h⟩ else none

def next? (d : Date) : Option Date :=
  if d.day < daysInMonth d.year d.month then of? d.year d.month (d.day + 1)
  else if d.month < 12 then of? d.year (d.month + 1) 1
  else of? (d.year + 1) 1 1

def previous? (d : Date) : Option Date :=
  if 1 < d.day then of? d.year d.month (d.day - 1)
  else if 1 < d.month then of? d.year (d.month - 1) (daysInMonth d.year (d.month - 1))
  else of? (d.year - 1) 12 31

/-- Days from the start of year 1 to the start of a year. -/
def daysBeforeYear (year : Int) : Int :=
  365 * (year - 1) + (year - 1) / 4 - (year - 1) / 100 + (year - 1) / 400

/-- Days from the start of a year to the start of a month. -/
def daysBeforeMonth (year : Int) (month : Nat) : Nat :=
  ((List.range month).drop 1).foldl (fun n m => n + daysInMonth year m) 0

/-- Days since 1 January 2000. -/
def dayNumber (d : Date) : Int :=
  daysBeforeYear d.year + daysBeforeMonth d.year d.month + (d.day - 1) - daysBeforeYear 2000

end Date

def isTimeOfDay (seconds nanos : Nat) : Bool := seconds < 86400 && nanos < 2000000000

structure TimeOfDay where
  seconds : Nat
  nanos : Nat
  valid : isTimeOfDay seconds nanos = true
  deriving DecidableEq

namespace TimeOfDay

def of? (seconds nanos : Nat) : Option TimeOfDay :=
  if h : isTimeOfDay seconds nanos = true then some ⟨seconds, nanos, h⟩ else none

def midnight : TimeOfDay := ⟨0, 0, rfl⟩

/-- The time that a clock shows; second 60 is the leap second after second 59. -/
def ofClock? (hour minute second nanos : Nat) : Option TimeOfDay :=
  if hour < 24 ∧ minute < 60 ∧ nanos < 1000000000 then
    if second < 60 then of? (hour * 3600 + minute * 60 + second) nanos
    else if second = 60 then of? (hour * 3600 + minute * 60 + 59) (nanos + 1000000000)
    else none
  else none

end TimeOfDay

structure DateTime where
  date : Date
  time : TimeOfDay
  deriving DecidableEq

namespace DateTime

/-- The date and time some minutes earlier, for less than a day in either direction. -/
def earlier? (t : DateTime) (minutes : Int) : Option DateTime := do
  let seconds := (t.time.seconds : Int) - 60 * minutes
  let date ←
    if seconds < 0 then t.date.previous?
    else if 86400 ≤ seconds then t.date.next?
    else some t.date
  let time ← TimeOfDay.of? (seconds % 86400).toNat t.time.nanos
  some ⟨date, time⟩

/-- Nanoseconds since the start of 2000. -/
def nanosSince2000 (t : DateTime) : Int :=
  (t.date.dayNumber * 86400 + t.time.seconds) * 1000000000 + t.time.nanos

end DateTime

/-- A date and time some minutes ahead of UTC, and the same moment in UTC. -/
structure OffsetDateTime where
  civil : DateTime
  minutes : Int
  utc : DateTime
  deriving DecidableEq

end PathQuery.Calendar
