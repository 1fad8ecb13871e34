import Crontab.Calendar.Gregorian
import Crontab.Fault

/-! # Moments

A date and a time of day, with the offset from universal time if it is known.
Offsets and distances are counted in microseconds.
-/
namespace Crontab

/-- A date and a time of day. Without an offset it is naive. -/
structure Moment where
  date : Date
  hour : Int
  minute : Int
  second : Int
  microsecond : Int
  offset? : Option Int
  deriving DecidableEq, Repr

namespace Moment
open Gregorian

def secondMicroseconds : Int := 1000000

def dayMicroseconds : Int := daySeconds * secondMicroseconds

/-- Years outside 1 to 9999 are not written with four digits. -/
def isCalendarYear (year : Int) : Bool :=
  1 ≤ year && year ≤ 9999

def check (m : Moment) : Except CalendarError Moment := do
  unless isCalendarYear m.date.year do throw (.yearOutOfRange m.date.year)
  unless 1 ≤ m.date.month && m.date.month ≤ 12 do throw .monthOutOfRange
  unless 1 ≤ m.date.day && m.date.day ≤ monthLength m.date.year m.date.month do
    throw .dayOutOfRange
  unless 0 ≤ m.hour && m.hour ≤ 23 do throw (.unitOutOfRange "hour" 23)
  unless 0 ≤ m.minute && m.minute ≤ 59 do throw (.unitOutOfRange "minute" 59)
  unless 0 ≤ m.second && m.second ≤ 59 do throw (.unitOutOfRange "second" 59)
  unless 0 ≤ m.microsecond && m.microsecond ≤ 999999 do
    throw (.unitOutOfRange "microsecond" 999999)
  return m

def localMicroseconds (m : Moment) : Int :=
  (dayNumber m.date * daySeconds + m.hour * 3600 + m.minute * 60 + m.second) * secondMicroseconds +
    m.microsecond

/-- Microseconds of universal time since 1970-01-01. A naive moment is read as universal time. -/
def universalMicroseconds (m : Moment) : Int :=
  m.localMicroseconds - m.offset?.getD 0

def ofLocalMicroseconds (count : Int) (offset? : Option Int) : Moment :=
  let seconds := count / secondMicroseconds
  let ofDay := seconds % daySeconds
  { date := ofDayNumber (seconds / daySeconds)
    hour := ofDay / 3600
    minute := ofDay / 60 % 60
    second := ofDay % 60
    microsecond := count % secondMicroseconds
    offset? := offset? }

def isInCalendar (count : Int) : Bool :=
  isCalendarYear (ofDayNumber (count / dayMicroseconds)).year

/-- The moment that a clock shows at the instant of a moment. A clock is given by its offset from
universal time, in seconds, at every second of universal time. -/
def onClock (offsetAt : Int → Int) (m : Moment) : Except CalendarError Moment := do
  let universal := m.universalMicroseconds
  unless isInCalendar universal do throw .dateOutOfRange
  let offset := offsetAt (universal / secondMicroseconds) * secondMicroseconds
  unless isInCalendar (universal + offset) do throw .dateOutOfRange
  return ofLocalMicroseconds (universal + offset) (some offset)

end Moment
end Crontab
