/-!
# The calendar

Days, and the moments in them, as numbers counted from the beginning of 1970.
-/

namespace Gridface.Tool

/-- A day with the time of the day. Its parts may be out of their ranges. -/
structure Moment where
  year : Int
  month : Int
  day : Int
  hour : Int := 0
  minute : Int := 0
  second : Int := 0
  deriving DecidableEq, Repr

namespace Moment

/-- Whether a year has a day more. -/
def isLeap (year : Int) : Bool :=
  decide (year % 4 = 0) && (decide (year % 100 ≠ 0) || decide (year % 400 = 0))

/-- The number of days in a month. -/
def daysIn (year month : Int) : Int :=
  if month = 2 then if isLeap year then 29 else 28
  else if month = 4 ∨ month = 6 ∨ month = 9 ∨ month = 11 then 30
  else 31

/-- The number of a day. Years are taken to begin in March, so that a leap day is the last of a
year; months beyond a year count on. -/
def dayNumber (year month day : Int) : Int :=
  let year := year + (month - 1) / 12
  let month := (month - 1) % 12 + 1
  let year := if month ≤ 2 then year - 1 else year
  let era := year / 400
  let yearOfEra := year % 400
  let dayOfYear := (153 * ((month + 9) % 12) + 2) / 5 + day - 1
  era * 146097 + (yearOfEra * 365 + yearOfEra / 4 - yearOfEra / 100 + dayOfYear) - 719468

/-- The year, month and day that a number of a day stands for. -/
def ofDayNumber (number : Int) : Moment :=
  let shifted := number + 719468
  let era := shifted / 146097
  let dayOfEra := shifted % 146097
  let yearOfEra := (dayOfEra - dayOfEra / 1460 + dayOfEra / 36524 - dayOfEra / 146096) / 365
  let dayOfYear := dayOfEra - (365 * yearOfEra + yearOfEra / 4 - yearOfEra / 100)
  let monthFromMarch := (5 * dayOfYear + 2) / 153
  let day := dayOfYear - (153 * monthFromMarch + 2) / 5 + 1
  let month := if monthFromMarch < 10 then monthFromMarch + 3 else monthFromMarch - 9
  let year := yearOfEra + era * 400 + (if month ≤ 2 then 1 else 0)
  { year, month, day }

/-- The number of seconds from the beginning of 1970. -/
def seconds (m : Moment) : Int :=
  dayNumber m.year m.month m.day * 86400 + m.hour * 3600 + m.minute * 60 + m.second

/-- The moment that is so many seconds after the beginning of 1970. -/
def ofSeconds (seconds : Int) : Moment :=
  let rest := seconds % 86400
  { ofDayNumber (seconds / 86400) with
    hour := rest / 3600, minute := rest / 60 % 60, second := rest % 60 }

/-- Whether the parts are in their ranges. -/
def isProper (m : Moment) : Bool :=
  1 ≤ m.month && m.month ≤ 12 && 1 ≤ m.day && m.day ≤ daysIn m.year m.month &&
    0 ≤ m.hour && m.hour < 24 && 0 ≤ m.minute && m.minute < 60 && 0 ≤ m.second && m.second < 60

/-- The day of the week, from Sunday on. -/
def weekday (m : Moment) : Int := (dayNumber m.year m.month m.day + 4) % 7

end Moment

end Gridface.Tool
