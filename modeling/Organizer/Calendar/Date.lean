import Organizer.Number.Decimal

/-!
# Dates and times

Dates of the Gregorian calendar, extended to all years, and times of a day to the microsecond. A
date has a number, the days since the eve of the first year; weekdays and distances follow from it.
-/

namespace Organizer

/-! ### Months -/

/-- Is the year a leap year? -/
def isLeapYear (year : Int) : Bool := year % 4 == 0 && (year % 100 != 0 || year % 400 == 0)

/-- The number of days of a month; none for what is not a month. -/
def daysInMonth (year : Int) : Nat → Nat
  | 1 | 3 | 5 | 7 | 8 | 10 | 12 => 31
  | 4 | 6 | 9 | 11 => 30
  | 2 => if isLeapYear year then 29 else 28
  | _ => 0

/-- A day of the calendar. -/
structure Date where
  year : Int
  month : Nat
  day : Nat
  deriving DecidableEq, Repr

namespace Date

/-- Does the day exist? -/
def isReal (d : Date) : Bool := 1 ≤ d.day && d.day ≤ daysInMonth d.year d.month

/-- The days of the years before a year, counted from the first year. -/
def daysBeforeYear (year : Int) : Int :=
  let y := year - 1
  365 * y + y / 4 - y / 100 + y / 400

/-- The days of the months of a year before a month. -/
def daysBeforeMonth (year : Int) : Nat → Nat
  | 0 => 0
  | month + 1 => daysBeforeMonth year month + daysInMonth year month

/-- The number of a day: the first day of the first year has the number one. -/
def number (d : Date) : Int := daysBeforeYear d.year + daysBeforeMonth d.year d.month + d.day

/-- The weekday of a day, counted from Sunday as zero. -/
def weekday (d : Date) : Nat := (d.number % 7).toNat

/-- The day after. -/
def next (d : Date) : Date :=
  if d.day < daysInMonth d.year d.month then { d with day := d.day + 1 }
  else if d.month < 12 then ⟨d.year, d.month + 1, 1⟩
  else ⟨d.year + 1, 1, 1⟩

/-- The last year that a point in time can lie in. -/
def maxYear : Int := 9999

end Date

/-! ### Points in time -/

/-- A point in time. -/
structure Moment where
  date : Date
  hour : Nat := 0
  minute : Nat := 0
  second : Nat := 0
  microsecond : Nat := 0
  deriving DecidableEq, Repr

namespace Moment

/-- The microseconds of a day that have passed. -/
def sinceMidnight (t : Moment) : Nat :=
  ((t.hour * 60 + t.minute) * 60 + t.second) * 1000000 + t.microsecond

/-- The microseconds of a day. -/
def microsecondsPerDay : Nat := 24 * 60 * 60 * 1000000

/-- The microseconds since the eve of the first year. -/
def instant (t : Moment) : Int := t.date.number * microsecondsPerDay + t.sinceMidnight

/-! ### Text -/

/-- A number of at least so many digits. -/
def padded (places n : Nat) : String :=
  let ds := Number.writeNat n
  String.ofList (List.replicate (places - ds.length) '0' ++ ds)

/-- Hours and minutes. -/
def clock (t : Moment) : String := padded 2 t.hour ++ ":" ++ padded 2 t.minute

/-- Hours, minutes and seconds. -/
def clockWithSeconds (t : Moment) : String := t.clock ++ ":" ++ padded 2 t.second

/-- The date, then the time with seconds. -/
def stamp (t : Moment) : String :=
  Number.showInt t.date.year ++ "-" ++ padded 2 t.date.month ++ "-" ++ padded 2 t.date.day ++ " " ++
    t.clockWithSeconds

/-- The international form, with six places of a second where they are not zero. -/
def iso (t : Moment) : String :=
  padded 4 t.date.year.toNat ++ "-" ++ padded 2 t.date.month ++ "-" ++ padded 2 t.date.day ++ "T" ++
    t.clockWithSeconds ++ if t.microsecond = 0 then "" else "." ++ padded 6 t.microsecond

end Moment

end Organizer
