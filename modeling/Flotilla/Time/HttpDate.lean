import Flotilla.Time.Instant
import Flotilla.Text.Basic

/-! # Dates in headers

A date in the header of a request has one of three forms:

    Sun, 06 Nov 1994 08:49:37 GMT
    Sunday, 06-Nov-94 08:49:37 GMT
    Sun Nov  6 08:49:37 1994

A date that the calendar does not have, or that falls on another day of the week than
it says, is no date. -/
namespace Flotilla

/-- A date as a header gives it; days of the week count from Sunday. -/
structure HttpDate where
  weekday : Nat
  date : Date
  hour : Nat
  minute : Nat
  second : Nat
deriving DecidableEq, Repr

namespace HttpDate

def weekdays : List String :=
  ["Sunday", "Monday", "Tuesday", "Wednesday", "Thursday", "Friday", "Saturday"]

/-- The short names of the days of the week. -/
def shortWeekdays : List String := ["Sun", "Mon", "Tue", "Wed", "Thu", "Fri", "Sat"]

def months : List String :=
  ["Jan", "Feb", "Mar", "Apr", "May", "Jun", "Jul", "Aug", "Sep", "Oct", "Nov", "Dec"]

/-- Cuts a text into pieces of given lengths, which must add up to its own. -/
def cut? : List Nat → List Char → Option (List String)
  | [], [] => some []
  | [], _ :: _ => none
  | n :: ns, cs =>
    if cs.length < n then none else (cut? ns (cs.drop n)).map (String.ofList (cs.take n) :: ·)

def number? (s : String) : Option Nat := Text.digits? s.toList

/-- A day of the month, with a blank for a zero in front. -/
def paddedDay? (s : String) : Option Nat :=
  number? (if s.startsWith " " then (s.drop 1).toString else s)

/-- A year of two digits: those from 70 on belong to the twentieth century. -/
def shortYear? (s : String) : Option Nat :=
  (number? s).map fun y => if y < 70 then 2000 + y else 1900 + y

def ofPieces? (weekday month : Option Nat) (year day : Option Nat) (hour minute second : String) :
    Option HttpDate := do
  let date : Date := ⟨← year, (← month) + 1, ← day⟩
  return ⟨← weekday, date, ← number? hour, ← number? minute, ← number? second⟩

/-- A date with the day in front of the month and a short day of the week. -/
def ofFixed? (cs : List Char) : Option HttpDate :=
  match cut? [3, 2, 2, 1, 3, 1, 4, 1, 2, 1, 2, 1, 2, 4] cs with
  | some [weekday, ", ", day, " ", month, " ", year, " ", hour, ":", minute, ":", second,
      " GMT"] =>
    ofPieces? (shortWeekdays.idxOf? weekday) (months.idxOf? month) (number? year) (number? day)
      hour minute second
  | _ => none

/-- A date with a full day of the week and a year of two digits. -/
def ofLong? (cs : List Char) : Option HttpDate :=
  match cs.span (· != ',') with
  | (weekday, ',' :: ' ' :: rest) =>
    match cut? [2, 1, 3, 1, 2, 1, 2, 1, 2, 1, 2, 4] rest with
    | some [day, "-", month, "-", year, _, hour, ":", minute, ":", second, " GMT"] =>
      ofPieces? (weekdays.idxOf? (String.ofList weekday)) (months.idxOf? month) (shortYear? year)
        (number? day) hour minute second
    | _ => none
  | _ => none

/-- A date with the month in front of the day and the year behind the time. -/
def ofClock? (cs : List Char) : Option HttpDate :=
  match cut? [3, 1, 3, 1, 2, 1, 2, 1, 2, 1, 2, 1, 4] cs with
  | some [weekday, " ", month, " ", day, " ", hour, ":", minute, ":", second, " ", year] =>
    ofPieces? (shortWeekdays.idxOf? weekday) (months.idxOf? month) (number? year)
      (paddedDay? day) hour minute second
  | _ => none

/-- A date that the calendar has, on the right day of the week, from 1970 on. -/
def valid (d : HttpDate) : Bool :=
  d.hour < 24 && d.minute < 60 && d.second < 60 && 1970 ≤ d.date.year
    && Date.ofDay d.date.toDay == d.date && ((d.date.toDay + 4) % 7).toNat == d.weekday

/-- The point in time that a date stands for. -/
def instant (d : HttpDate) : Instant :=
  ⟨d.date.toDay * 86400 + d.hour * 3600 + d.minute * 60 + d.second, 0⟩

def ofText? (s : String) : Option HttpDate :=
  let cs := Text.trim s.toList
  (((ofFixed? cs).orElse fun _ => ofLong? cs).orElse fun _ => ofClock? cs).filter valid

end HttpDate

end Flotilla
