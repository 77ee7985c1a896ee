import Flotilla.Text.Basic

/-! # Points in time

A point in time is counted from the start of 1970 in seconds, without leap seconds;
the nanoseconds of a leap second run on past the second before it. Its written form
is a date of the Gregorian calendar with the time of day, in UTC. -/
namespace Flotilla

/-- A date of the Gregorian calendar. The year before year 1 is year 0. -/
structure Date where
  year : Int
  month : Nat
  day : Nat
deriving DecidableEq, Repr

namespace Date

/-- The number of days in 400 years, after which the calendar repeats. -/
def daysOfCycle : Nat := 146097

/-- The number of days from the first of March of year 0 to the start of 1970. -/
def daysBefore1970 : Int := 719468

/-- The year of a day of a cycle, years starting in March. The terms undo the leap days
every 4, 100 and 400 years. -/
def yearOfCycle (day : Nat) : Nat :=
  (day - day / 1460 + day / 36524 - day / 146096) / 365

/-- The first day of a year of a cycle. -/
def firstDay (year : Nat) : Nat :=
  365 * year + year / 4 - year / 100

/-- The date of a day counted from the start of 1970. -/
def ofDay (day : Int) : Date :=
  let z := day + daysBefore1970
  let cycle := z / daysOfCycle
  let day := (z % daysOfCycle).toNat
  let year := yearOfCycle day
  let day := day - firstDay year
  let month := (5 * day + 2) / 153
  let late := 10 ≤ month
  { year := 400 * cycle + year + (if late then 1 else 0)
    month := if late then month - 9 else month + 3
    day := day - (153 * month + 2) / 5 + 1 }

/-- The day of a date, counted from the start of 1970. -/
def toDay (d : Date) : Int :=
  let early := d.month ≤ 2
  let year := if early then d.year - 1 else d.year
  let month := if early then d.month + 9 else d.month - 3
  year / 400 * daysOfCycle + firstDay (year % 400).toNat + ((153 * month + 2) / 5 : Nat) + d.day
    - 1 - daysBefore1970

end Date

structure Instant where
  seconds : Int
  nanos : Nat := 0
deriving DecidableEq, Repr, Inhabited

namespace Instant

/-- A number with zeros in front, to a width. -/
def fixed (width n : Nat) : String :=
  let digits := Text.ofNat n
  String.ofList (List.replicate (width - digits.length) '0') ++ digits

/-- A year: four digits, or more of them behind a sign. -/
def yearText (year : Int) : String :=
  if 0 ≤ year ∧ year ≤ 9999 then fixed 4 year.toNat
  else (if year < 0 then "-" else "+") ++ fixed 4 year.natAbs

def nanosOfSecond : Nat := 1000000000

/-- The fraction of a second in thousandths, millionths or billionths, whichever is exact
first; none for a whole second. -/
def fractionText (nanos : Nat) : String :=
  if nanos = 0 then ""
  else if nanos % 1000000 = 0 then "." ++ fixed 3 (nanos / 1000000)
  else if nanos % 1000 = 0 then "." ++ fixed 6 (nanos / 1000)
  else "." ++ fixed 9 nanos

def text (t : Instant) : String :=
  let date := Date.ofDay (t.seconds / 86400)
  let second := (t.seconds % 86400).toNat
  let leap := t.nanos / nanosOfSecond
  yearText date.year ++ "-" ++ fixed 2 date.month ++ "-" ++ fixed 2 date.day
    ++ "T" ++ fixed 2 (second / 3600) ++ ":" ++ fixed 2 (second / 60 % 60)
    ++ ":" ++ fixed 2 (second % 60 + leap) ++ fractionText (t.nanos % nanosOfSecond) ++ "Z"

end Instant

end Flotilla
