import BlockTemplate.Calendar.Moment
import BlockTemplate.Number.Natural
/-!
# Timestamps

The text of a moment in data: date, time and offset, as in `2024-03-09T14:05:00+00:00`. Fractions
of a second have three, six or nine digits, as few as are needed, and none if there is nothing to
show. Seconds of an offset are rounded to the minute.
-/

namespace BlockTemplate.Calendar

/-- A number with zeros before it, up to a number of digits. -/
def padded (digits n : Nat) : List Char :=
  let text := Number.natText n
  List.replicate (digits - text.length) '0' ++ text

/-- A year of four digits; one that has more, or is negative, carries a sign. -/
def yearText (year : Int) : List Char :=
  if 0 ≤ year ∧ year ≤ 9999 then padded 4 year.toNat
  else (if year < 0 then '-' else '+') :: padded 4 year.natAbs

/-- Nanoseconds below one second as a fraction. -/
def fractionText (nanosecond : Nat) : List Char :=
  if nanosecond = 0 then []
  else if nanosecond % 1000000 = 0 then '.' :: padded 3 (nanosecond / 1000000)
  else if nanosecond % 1000 = 0 then '.' :: padded 6 (nanosecond / 1000)
  else '.' :: padded 9 nanosecond

/-- Hours and minutes of an offset. -/
def offsetText (offset : Int) : List Char :=
  let minutes := (offset.natAbs + 30) / 60
  (if offset < 0 then '-' else '+') :: (padded 2 (minutes / 60) ++ ':' :: padded 2 (minutes % 60))

/-- The timestamp of a moment. -/
def Moment.timestamp (m : Moment) : List Char :=
  yearText m.date.year ++ '-' :: padded 2 m.date.month ++ '-' :: padded 2 m.date.day ++
    'T' :: padded 2 m.hour ++ ':' :: padded 2 m.minute ++ ':' :: padded 2 m.shownSecond ++
    fractionText (m.nanosecond % 1000000000) ++ offsetText m.offset

end BlockTemplate.Calendar
