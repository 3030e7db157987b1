/-!
# The calendar

Days are written by year, month and day.  A moment is a day with a time of day,
and may name the zone whose clock it is read from.  Moments with a zone are
compared by the instant they stand for, so by their days, seconds and offsets.
-/

namespace CestExport

/-- A zone whose clock is ahead of the prime meridian by some minutes, and its name. -/
structure Zone where
  minutes : Int
  name : String
deriving DecidableEq, Repr

/-- A calendar day. -/
structure Day where
  year : Nat
  month : Nat
  day : Nat
deriving DecidableEq, Repr

/-- A day with a time of day, in a zone or in none. -/
structure Moment where
  date : Day
  hour : Nat
  minute : Nat
  second : Nat
  /-- Millionths of a second. -/
  micros : Nat
  zone : Option Zone
deriving DecidableEq, Repr

/-! ## Days -/

/-- A leap year has a 29th of February. -/
def isLeapYear (year : Nat) : Bool :=
  year % 4 == 0 && (year % 100 != 0 || year % 400 == 0)

/-- How many days a month has. -/
def daysInMonth (year month : Nat) : Nat :=
  if month = 2 then (if isLeapYear year then 29 else 28)
  else if month = 4 ∨ month = 6 ∨ month = 9 ∨ month = 11 then 30
  else 31

/-- The last year of the calendar. -/
def lastYear : Nat := 9999

namespace Day

/-- The day after a day. -/
def next (d : Day) : Day :=
  if d.day < daysInMonth d.year d.month then { d with day := d.day + 1 }
  else if d.month < 12 then ⟨d.year, d.month + 1, 1⟩
  else ⟨d.year + 1, 1, 1⟩

/-- How many days of a year lie in front of a month. -/
def daysBefore (year : Nat) : Nat → Nat
  | 0 => 0
  | 1 => 0
  | month + 1 => daysBefore year month + daysInMonth year month

/-- The number of a day, from the first day of the first year on. -/
def number (d : Day) : Nat :=
  let years := d.year - 1
  365 * years + years / 4 - years / 100 + years / 400 + daysBefore d.year d.month + d.day

end Day

/-! ## Moments -/

namespace Moment

/-- A moment one second later, if the calendar goes on so far. -/
def later? (m : Moment) : Option Moment :=
  if m.second < 59 then some { m with second := m.second + 1 }
  else if m.minute < 59 then some { m with minute := m.minute + 1, second := 0 }
  else if m.hour < 23 then some { m with hour := m.hour + 1, minute := 0, second := 0 }
  else
    let d := m.date.next
    if lastYear < d.year then none
    else some { m with date := d, hour := 0, minute := 0, second := 0 }

/-- The second of a moment at the prime meridian, or on the clock if it has no zone. -/
def instant (m : Moment) : Int :=
  let minutes : Int := 1440 * m.date.number + 60 * m.hour + m.minute
  60 * (minutes - (m.zone.map Zone.minutes).getD 0) + m.second

/-- Whether two moments are the same: both have a zone or none, and the instants agree. -/
def same (m n : Moment) : Bool :=
  m.zone.isSome == n.zone.isSome && m.instant == n.instant && m.micros == n.micros

end Moment

end CestExport
