import Crontab.Calendar.IsoText
import Crontab.Calendar.Timestamp
import Crontab.Reading

/-! # Calendar parts

The numbers that a schedule is compared with. A provider finds them for an
instant; the one here knows datetimes, ISO texts and timestamps, and takes its
zones from a table.
-/
namespace Crontab

/-- One instant on one clock. The month counts from 0, the week from Sunday. -/
structure Parts where
  year : Int
  monthIndex : Int
  day : Int
  weekday : Int
  hour : Int
  minute : Int
  second : Int
  millisecond : Int
  deriving DecidableEq, Repr

namespace Parts

def month (p : Parts) : Int :=
  p.monthIndex + 1

def read (entries : List (Value × Value)) : Except Fault Parts :=
  let unit (key : String) (least greatest : Int) :=
    Value.required entries key (Value.integerWithin least greatest)
  Checked.forModel "CalendarComponents" <|
    (fun (year, monthIndex, day, weekday, hour, minute, second, millisecond) =>
        { year, monthIndex, day, weekday, hour, minute, second, millisecond }) <$>
      (Checked.both (Value.required entries "year" Value.integer) <|
        Checked.both (unit "month_index" 0 11) <| Checked.both (unit "day" 1 31) <|
        Checked.both (unit "weekday" 0 6) <| Checked.both (unit "hour" 0 23) <|
        Checked.both (unit "minute" 0 59) <| Checked.both (unit "second" 0 59)
          (Value.optional entries "millisecond" 0 (Value.integerWithin 0 999)))

def ofMoment (m : Moment) : Parts where
  year := m.date.year
  monthIndex := m.date.month - 1
  day := m.date.day
  weekday := Gregorian.weekday (Gregorian.dayNumber m.date)
  hour := m.hour
  minute := m.minute
  second := m.second
  millisecond := m.microsecond / 1000

end Parts

/-- Zones by name, each as the offset of its clock, in seconds, at every second of universal
time. -/
abbrev ZoneTable := Text → Option (Int → Int)

/-- The zone of universal time. -/
def universalZone : Text := "UTC".toList

/-- A point in time as it is given: a datetime, or a value that may denote one. -/
inductive Instant
  /-- A datetime, and the zone of which it is a local time if it carries a named zone. -/
  | moment (m : Moment) (zone? : Option Text)
  | value (v : Value)

namespace Instant

/-- The moment that an instant denotes. Timestamps denote moments of universal time. -/
def toMoment : Instant → Except CalendarError Moment
  | .moment m _ => return m
  | .value (.text t) => IsoText.read t
  | .value (.int n) => Timestamp.moment n 0
  | .value (.float x) => Timestamp.ofBinary64 x
  | .value v => throw (if v.isWritable then .unsupportedInstant v else .unwritableInstant)

/-- The zone that a datetime carries. -/
def ownZone? : Instant → Option Text
  | .moment _ zone? => zone?
  | .value _ => none

/-- What an instant shows that denotes a moment: the moment itself if no zone is named, and what the
clock of the named zone shows otherwise. A datetime that carries the zone is left as it is. -/
def shownIn (zones : ZoneTable) (instant : Instant) (zone? : Option Text) (m : Moment) :
    Except CalendarError Moment :=
  match zone? with
  | none => return m
  | some name =>
    match zones name with
    | none => throw (.unknownZone name)
    | some offsetAt => if instant.ownZone? = some name then return m else m.onClock offsetAt

/-- The calendar parts of an instant: on the clock of a zone, or at face value without one. -/
def partsIn (zones : ZoneTable) (instant : Instant) (zone? : Option Text) :
    Except CalendarError Parts := do
  let m ← instant.toMoment
  return Parts.ofMoment (← instant.shownIn zones zone? m)

end Instant

abbrev Provider := Instant → Option Text → Except Fault Parts

/-- The provider whose clocks are those of a table of zones. -/
def zonedProvider (zones : ZoneTable) : Provider := fun instant zone? =>
  (instant.partsIn zones zone?).mapError .calendar

end Crontab
