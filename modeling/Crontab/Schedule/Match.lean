import Crontab.Calendar.Parts
import Crontab.Schedule.Compile

/-! # Matching

An instant is due when each part is scheduled. Of the two day fields one is
enough if both are restricted. A schedule that asks February for a day it does
not have is refused while the instant is in March.
-/
namespace Crontab

/-- Whether the first scheduled value that is not below the value equals it. Past the last
scheduled value the first one is compared instead. -/
def fieldMatches (value : Int) (scheduled : List Int) : Bool :=
  match scheduled.find? fun s => value ≤ s with
  | some s => s == value
  | none => scheduled.head? == some value

/-- Whether a list is as long as the whole range of its field. -/
def isWildcardSpan (scheduled : List Int) (bounds : Bounds) : Bool :=
  let expected := if bounds.min < 1 then bounds.max + 1 else bounds.max
  !scheduled.isEmpty && (scheduled.length : Int) == expected

namespace Schedule

def isWild (s : Schedule) (f : Field) : Bool :=
  isWildcardSpan (s.values f) f.bounds

def february : Int := 2

/-- The month before a month. Before January stands November. -/
def previousMonth (month : Int) : Int :=
  if month = 1 then 11 else month - 1

/-- Refuses a schedule for February whose last day February does not have. The check is made
in March of a common year; in a leap year every day passes. -/
def checkCalendar (s : Schedule) (parts : Parts) : Except Fault Unit :=
  if s.isWild .month then return ()
  else
    match (s.values .month).head?, (s.values .dayOfMonth).getLast? with
    | some firstMonth, some lastDay =>
      let previous := previousMonth parts.month
      let leap := Gregorian.isLeapYear parts.year
      let available := if leap then 29 else Gregorian.daysInMonth.getD (previous - 1).toNat 0
      let wanted := if leap then 29 else lastDay
      if previous = february && firstMonth = previous && available < wanted then
        throw (.dayOutsideMonth previous lastDay)
      else return ()
    | _, _ => return ()

/-- Whether the day is due. A restricted field decides alone if the other one is not restricted. -/
def dayMatches (s : Schedule) (parts : Parts) : Bool :=
  let inMonth := fieldMatches parts.day (s.values .dayOfMonth)
  let inWeek := fieldMatches parts.weekday (s.values .dayOfWeek)
  let wildMonth := s.isWild .dayOfMonth
  let wildWeek := s.isWild .dayOfWeek
  if !inMonth && !inWeek then false
  else if !wildMonth && wildWeek && !inMonth then false
  else if wildMonth && !wildWeek && !inWeek then false
  else if !(wildMonth && wildWeek) && !inMonth && !inWeek then false
  else true

def matchesParts (s : Schedule) (parts : Parts) : Except Fault Bool := do
  s.checkCalendar parts
  return s.dayMatches parts && fieldMatches parts.month (s.values .month) &&
    fieldMatches parts.hour (s.values .hour) && fieldMatches parts.minute (s.values .minute) &&
    fieldMatches parts.second (s.values .second)

def matchesInstant (s : Schedule) (provider : Provider) (instant : Instant) (zone? : Option Text) :
    Except Fault Bool := do
  s.matchesParts (← provider instant zone?)

end Schedule

/-- Compiles an expression and compares an instant with it. -/
def cronMatches (provider : Provider) (expression : Value) (instant : Instant)
    (zone? : Option Text) : Except Fault Bool := do
  let schedule ← Schedule.compileValue expression
  schedule.matchesInstant provider instant zone?

/-- A schedule with the zone and the provider that it is to be read with. -/
structure Trigger where
  schedule : Schedule
  zone? : Option Text
  provider : Provider

namespace Trigger

/-- The zone named, unless universal time is asked for. -/
def zoneFor (zone? : Option Text) (universal : Bool) : Option Text :=
  if universal then some universalZone else zone?

def parse (expression : Value) (zone? : Option Text) (universal : Bool) (provider : Provider) :
    Except Fault Trigger := do
  let schedule ← Schedule.compileValue expression
  return ⟨schedule, zoneFor zone? universal, provider⟩

def test (t : Trigger) (instant : Instant) : Except Fault Bool :=
  t.schedule.matchesInstant t.provider instant t.zone?

def display (t : Trigger) : String :=
  let zone := match t.zone? with
    | none => "None"
    | some name => Text.quoted name
  s!"CronExpression({Text.quoted t.schedule.source}, tz={zone})"

end Trigger
end Crontab
