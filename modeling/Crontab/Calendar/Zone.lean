import Crontab.Calendar.Parts

/-! # A table of time zones

Some zones by the rules that they follow at present, for a program without a
database of zones at hand. Daylight time begins and ends on a Sunday of a month; in
the south the year begins in daylight time.
-/
namespace Crontab

/-- Which Sunday of a month. -/
inductive Sunday
  | first
  | second
  | last
  deriving DecidableEq, Repr

/-- A yearly change of the clocks: a Sunday, the time shown, and the offset of the clock that
shows it. -/
structure Changeover where
  month : Int
  sunday : Sunday
  clock : Int
  offset : Int
  deriving DecidableEq, Repr

/-- The offset in daylight time, and when that begins and ends. -/
structure Daylight where
  offset : Int
  start : Changeover
  stop : Changeover
  deriving DecidableEq, Repr

/-- Offsets from universal time in seconds. -/
structure Zone where
  standard : Int
  daylight? : Option Daylight
  deriving DecidableEq, Repr

namespace Sunday
open Gregorian

def dayNumber (sunday : Sunday) (year month : Int) : Int :=
  let begins := Gregorian.dayNumber ⟨year, month, 1⟩
  let ends := begins + monthLength year month - 1
  let firstSunday := begins + (7 - weekday begins) % 7
  match sunday with
  | .first => firstSunday
  | .second => firstSunday + 7
  | .last => ends - weekday ends

end Sunday

def Changeover.instant (change : Changeover) (year : Int) : Int :=
  change.sunday.dayNumber year change.month * daySeconds + change.clock - change.offset

namespace Zone

def inDaylight (zone : Zone) (daylight : Daylight) (second : Int) : Bool :=
  let year := (Gregorian.ofDayNumber ((second + zone.standard) / daySeconds)).year
  let start := daylight.start.instant year
  let stop := daylight.stop.instant year
  if start < stop then start ≤ second && second < stop else start ≤ second || second < stop

def offsetAt (zone : Zone) (second : Int) : Int :=
  match zone.daylight? with
  | none => zone.standard
  | some daylight => if zone.inDaylight daylight second then daylight.offset else zone.standard

def clock (hours minutes : Int) : Int :=
  hours * 3600 + minutes * 60

def fixed (offset : Int) : Zone :=
  ⟨offset, none⟩

/-- Daylight time from the last Sunday of March to that of October, changing at one o'clock of
universal time. -/
def european (standard : Int) : Zone where
  standard := standard
  daylight? := some
    { offset := standard + clock 1 0
      start := ⟨3, .last, clock 1 0, 0⟩
      stop := ⟨10, .last, clock 1 0, 0⟩ }

/-- Daylight time from the second Sunday of March to the first of November, changing at two
o'clock. -/
def american (standard : Int) : Zone where
  standard := standard
  daylight? := some
    { offset := standard + clock 1 0
      start := ⟨3, .second, clock 2 0, standard⟩
      stop := ⟨11, .first, clock 2 0, standard + clock 1 0⟩ }

/-- Daylight time from the first Sunday of October to that of April, changing at the clocks
given. -/
def australian (standard daylight stopClock : Int) : Zone where
  standard := standard
  daylight? := some
    { offset := daylight
      start := ⟨10, .first, clock 2 0, standard⟩
      stop := ⟨4, .first, stopClock, daylight⟩ }

/-- Daylight time from the last Sunday of September to the first of April, when the clocks of
Auckland show two and three. -/
def newZealand (standard : Int) : Zone where
  standard := standard
  daylight? := some
    { offset := standard + clock 1 0
      start := ⟨9, .last, clock 2 0, clock 12 0⟩
      stop := ⟨4, .first, clock 3 0, clock 13 0⟩ }

def table : List (Text × Zone) :=
  [("UTC".toList, fixed 0),
   ("Etc/UTC".toList, fixed 0),
   ("GMT".toList, fixed 0),
   ("Etc/GMT+5".toList, fixed (clock (-5) 0)),
   ("Etc/GMT+12".toList, fixed (clock (-12) 0)),
   ("Etc/GMT-14".toList, fixed (clock 14 0)),
   ("Asia/Tokyo".toList, fixed (clock 9 0)),
   ("Asia/Kolkata".toList, fixed (clock 5 30)),
   ("Asia/Kathmandu".toList, fixed (clock 5 45)),
   ("Pacific/Kiritimati".toList, fixed (clock 14 0)),
   ("Europe/London".toList, european 0),
   ("Europe/Dublin".toList, european 0),
   ("Europe/Paris".toList, european (clock 1 0)),
   ("Europe/Berlin".toList, european (clock 1 0)),
   ("America/New_York".toList, american (clock (-5) 0)),
   ("America/Los_Angeles".toList, american (clock (-8) 0)),
   ("America/St_Johns".toList, american (-clock 3 30)),
   ("Australia/Sydney".toList, australian (clock 10 0) (clock 11 0) (clock 3 0)),
   ("Australia/Lord_Howe".toList, australian (clock 10 30) (clock 11 0) (clock 2 0)),
   ("Pacific/Auckland".toList, newZealand (clock 12 0)),
   ("Pacific/Chatham".toList, newZealand (clock 12 45))]

/-- The zone of a name; case matters. -/
def named? (name : Text) : Option Zone :=
  table.lookup name

/-- The table as a provider takes it. -/
def known : ZoneTable := fun name =>
  (named? name).map offsetAt

end Zone

/-- The calendar parts of an instant on the clocks of the table. -/
def Instant.toParts (instant : Instant) (zone? : Option Text) : Except CalendarError Parts :=
  instant.partsIn Zone.known zone?

def civilProvider : Provider :=
  zonedProvider Zone.known

end Crontab
