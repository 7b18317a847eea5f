import BlockTemplate.Calendar.Civil
/-!
# Moments

A moment is a day and a time of day in some offset from universal time. A leap second is the
second 59 with more than a full second of nanoseconds.
-/

namespace BlockTemplate.Calendar

/-- A local date and time with its offset from universal time in seconds. -/
structure Moment where
  date : Civil
  hour : Nat
  minute : Nat
  second : Nat
  nanosecond : Nat
  offset : Int
  deriving DecidableEq, Repr, Inhabited

namespace Moment

/-- Seconds from the first of January 1970 in universal time, a leap second not counted. -/
def instant (m : Moment) : Int :=
  m.date.toDays * 86400 + (m.hour * 3600 + m.minute * 60 + m.second : Nat) - m.offset

/-- The moment at an instant, at offset zero. -/
def ofInstant (instant : Int) (nanosecond : Nat) : Moment :=
  let secondOfDay := (instant % 86400).toNat
  { date := Civil.ofDays (instant / 86400)
    hour := secondOfDay / 3600
    minute := secondOfDay / 60 % 60
    second := secondOfDay % 60
    nanosecond := nanosecond
    offset := 0 }

/-- The same instant at offset zero. -/
def utc (m : Moment) : Moment := ofInstant m.instant m.nanosecond

/-- Years that dates are kept in. -/
def yearInRange (year : Int) : Bool := -262143 ≤ year && year ≤ 262142

/-- Whether there is such a moment. -/
def isValid (m : Moment) : Bool :=
  m.date.isValid && m.hour ≤ 23 && m.minute ≤ 59 && m.second ≤ 59 &&
    (m.nanosecond < 1000000000 || (m.nanosecond < 2000000000 && m.second = 59)) &&
    -86400 < m.offset && m.offset < 86400 && yearInRange m.date.year &&
    yearInRange m.utc.date.year

/-- The second as it is shown: a leap second is the second 60. -/
def shownSecond (m : Moment) : Nat := m.second + m.nanosecond / 1000000000

/-- The hour on a twelve-hour dial. -/
def dialHour (m : Moment) : Nat := if m.hour % 12 = 0 then 12 else m.hour % 12

end Moment

end BlockTemplate.Calendar
