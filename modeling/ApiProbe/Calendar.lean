/-!
Points in time and their dates in universal time. An instant counts milliseconds from the start of
1970. The calendar reaches some 262,000 years to either side; instants beyond have no date.
-/
namespace ApiProbe

/-- Milliseconds since the start of 1970. -/
structure Instant where
  millis : Int
  deriving Repr, DecidableEq

/-- A day of the Gregorian calendar, continued to all years. -/
structure Date where
  year : Int
  month : Nat
  day : Nat
  deriving Repr, DecidableEq

namespace Calendar

def millisPerDay : Int := 86400000

/-- The date of a day counted from the start of 1970. Years are taken to begin in March, so that the
leap day is the last day of a year; they repeat after 400 years. -/
def dateOfDay (day : Int) : Date :=
  let shifted := day + 719468
  let era := shifted.fdiv 146097
  let dayOfEra := (shifted.fmod 146097).toNat
  let yearOfEra := (dayOfEra - dayOfEra / 1460 + dayOfEra / 36524 - dayOfEra / 146096) / 365
  let dayOfYear := dayOfEra - (365 * yearOfEra + yearOfEra / 4 - yearOfEra / 100)
  let monthFromMarch := (5 * dayOfYear + 2) / 153
  let month := if monthFromMarch < 10 then monthFromMarch + 3 else monthFromMarch - 9
  let year := Int.ofNat yearOfEra + era * 400 + (if month ≤ 2 then 1 else 0)
  ⟨year, month, dayOfYear - (153 * monthFromMarch + 2) / 5 + 1⟩

def firstYear : Int := -262143
def lastYear : Int := 262142

def pad (width n : Nat) : String :=
  let digits := toString n
  String.ofList (List.replicate (width - digits.length) '0') ++ digits

/-- Four digits, with a sign outside the years 0 to 9999. -/
def yearText (year : Int) : String :=
  if 0 ≤ year && year ≤ 9999 then pad 4 year.toNat
  else (if year < 0 then "-" else "+") ++ pad 4 year.natAbs

def dayNames : List String := ["Thu", "Fri", "Sat", "Sun", "Mon", "Tue", "Wed"]

def monthNames : List String :=
  ["Jan", "Feb", "Mar", "Apr", "May", "Jun", "Jul", "Aug", "Sep", "Oct", "Nov", "Dec"]

end Calendar

namespace Instant
open Calendar

def day (at_ : Instant) : Int := at_.millis.fdiv millisPerDay

/-- Milliseconds since the start of the day. -/
def timeOfDay (at_ : Instant) : Nat := (at_.millis.fmod millisPerDay).toNat

def date (at_ : Instant) : Date := dateOfDay at_.day

def inCalendar (at_ : Instant) : Bool :=
  firstYear ≤ at_.date.year && at_.date.year ≤ lastYear

/-- Whole seconds since the start of 1970. -/
def seconds (at_ : Instant) : Int := at_.millis.fdiv 1000

def clockText (at_ : Instant) : String :=
  let time := at_.timeOfDay / 1000
  s!"{pad 2 (time / 3600)}:{pad 2 (time / 60 % 60)}:{pad 2 (time % 60)}"

/-- Date and time to the millisecond, as in `2024-05-01T12:30:00.250Z`. -/
def iso (at_ : Instant) : String :=
  let date := at_.date
  s!"{yearText date.year}-{pad 2 date.month}-{pad 2 date.day}T{at_.clockText}"
    ++ s!".{pad 3 (at_.timeOfDay % 1000)}Z"

/-- Date and time in the form of mail and HTTP headers, as in `Wed, 01 May 2024 12:30:00 GMT`. -/
def headerForm (at_ : Instant) : String :=
  let date := at_.date
  let weekday := (dayNames[(at_.day.fmod 7).toNat]?).getD ""
  let month := (monthNames[date.month - 1]?).getD ""
  s!"{weekday}, {pad 2 date.day} {month} {yearText date.year} {at_.clockText} GMT"

/-- A later or earlier instant, if the calendar still holds it. -/
def shift? (at_ : Instant) (millis : Int) : Option Instant :=
  let moved : Instant := ⟨at_.millis + millis⟩
  if moved.inCalendar then some moved else none

end Instant
end ApiProbe
