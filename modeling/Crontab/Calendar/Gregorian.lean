/-! # The Gregorian calendar

Dates and day numbers, extended to all years in both directions. Day 0 is
1970-01-01. Inside a day number, years are counted from March, so that the leap
day is the last one, in eras of 400 years.
-/
namespace Crontab

structure Date where
  year : Int
  month : Int
  day : Int
  deriving DecidableEq, Repr

def daySeconds : Int := 86400

namespace Gregorian

/-- Every fourth year, but of the centuries only every fourth. -/
def isLeapYear (year : Int) : Bool :=
  year % 4 = 0 && (year % 100 ≠ 0 || year % 400 = 0)

def daysInMonth : List Int :=
  [31, 28, 31, 30, 31, 30, 31, 31, 30, 31, 30, 31]

def monthLength (year month : Int) : Int :=
  if month = 2 && isLeapYear year then 29 else daysInMonth.getD (month - 1).toNat 0

/-- Days in an era of 400 years. -/
def eraDays : Int := 146097

/-- The day number of the first day of the era of year 0. -/
def epochShift : Int := 719468

/-- Days of a year counted from March, before a month counted from March. -/
def daysBefore (marchMonth : Int) : Int :=
  (153 * marchMonth + 2) / 5

/-- The day of an era that a year of the era, counted from March, begins with. -/
def yearStart (yearOfEra : Int) : Int :=
  365 * yearOfEra + yearOfEra / 4 - yearOfEra / 100

/-- The year of an era, counted from March, in which a day of the era lies. -/
def yearOfEra (dayOfEra : Int) : Int :=
  (dayOfEra - dayOfEra / 1460 + dayOfEra / 36524 - dayOfEra / 146096) / 365

def dayNumber (date : Date) : Int :=
  let marchYear := if date.month ≤ 2 then date.year - 1 else date.year
  let marchMonth := (date.month + 9) % 12
  let dayOfYear := daysBefore marchMonth + date.day - 1
  marchYear / 400 * eraDays + yearStart (marchYear % 400) + dayOfYear - epochShift

def ofDayNumber (number : Int) : Date :=
  let shifted := number + epochShift
  let dayOfEra := shifted % eraDays
  let year := yearOfEra dayOfEra
  let dayOfYear := dayOfEra - yearStart year
  let marchMonth := (5 * dayOfYear + 2) / 153
  let month := if marchMonth < 10 then marchMonth + 3 else marchMonth - 9
  { year := shifted / eraDays * 400 + year + (if month ≤ 2 then 1 else 0)
    month := month
    day := dayOfYear - daysBefore marchMonth + 1 }

/-- The day of the week of a day number, Sunday being 0. -/
def weekday (number : Int) : Int :=
  (number + 4) % 7

end Gregorian
end Crontab
