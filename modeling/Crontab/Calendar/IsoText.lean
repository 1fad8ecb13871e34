import Crontab.Calendar.Moment
import Crontab.Text.Blank
import Crontab.Text.Numeral

/-! # Instants in ISO 8601

A date in calendar or week form, a separator of any one character, a time of day
and an offset, all in ordinary digits. The longest date form at the start counts as the date.
-/
namespace Crontab.IsoText
open Gregorian

def digits? (count : Nat) (t : Text) : Option (Int × Text) :=
  let head := t.take count
  if head.length = count && head.all Text.isAsciiDigit then some (Text.value head, t.drop count)
  else none

def expect? (c : Char) : Text → Option Text
  | [] => none
  | d :: rest => if d = c then some rest else none

/-- Whether nothing follows. A NUL ends a text too. -/
def isEnd (t : Text) : Bool :=
  t.head?.getD '\x00' == '\x00'

def digitAt (t : Text) (index : Nat) : Bool :=
  (t[index]?.map Text.isAsciiDigit).getD false

/-- The length of the date form at the start of a text of at least seven characters. -/
def dateLength? (t : Text) : Option Nat :=
  if t.length = 7 then some 7
  else if t[4]? = some '-' then
    if t[5]? = some 'W' then
      if t[8]? = some '-' then
        if t.length = 9 then none
        else if digitAt t 10 then some 8
        else some 10
      else some 8
    else some 10
  else if t[4]? = some 'W' then
    let stop := 7 + ((t.drop 7).takeWhile Text.isAsciiDigit).length
    if stop < 9 then some stop
    else if stop % 2 = 0 then some 7
    else some 8
  else some 8

/-- Whether an ISO year has a week 53: it begins on a Thursday, or as a leap year on a Wednesday. -/
def hasLongYear (year : Int) : Bool :=
  let begins := weekday (dayNumber ⟨year, 1, 1⟩)
  begins = 4 || (begins = 3 && isLeapYear year)

/-- The day number of the Monday of week 1, the week of January 4. -/
def firstMonday (year : Int) : Int :=
  let january4 := dayNumber ⟨year, 1, 4⟩
  january4 - (weekday january4 + 6) % 7

def weekDate? (year week day : Int) : Option Date :=
  if 1 ≤ week && (week ≤ 52 || (week = 53 && hasLongYear year)) && 1 ≤ day && day ≤ 7 then
    some (ofDayNumber (firstMonday year + (week - 1) * 7 + day - 1))
  else none

/-- The date in week form that stands after the year. The day may be left out. -/
def readWeekDate? (year : Int) (separated : Bool) (t : Text) : Option Date := do
  let (week, rest) ← digits? 2 t
  if rest.isEmpty then weekDate? year week 1
  else
    let rest ← if separated then expect? '-' rest else some rest
    let (day, _) ← digits? 1 rest
    weekDate? year week day

def readDate? (t : Text) : Option Date := do
  let (year, rest) ← digits? 4 t
  let separated := rest.head? == some '-'
  let rest := if separated then rest.drop 1 else rest
  match rest with
  | 'W' :: rest => readWeekDate? year separated rest
  | rest =>
    let (month, rest) ← digits? 2 rest
    let rest ← if separated then expect? '-' rest else some rest
    let (day, rest) ← digits? 2 rest
    if rest.isEmpty then some ⟨year, month, day⟩ else none

/-- Hours, minutes, seconds and microseconds, and whether the text ended with them. -/
structure Clock where
  hour : Int
  minute : Int
  second : Int
  microsecond : Int
  complete : Bool
  deriving DecidableEq, Repr

/-- Microseconds from up to six digits of a fraction; further digits are dropped. -/
def readFraction? (t : Text) : Option (Int × Bool) :=
  let head := t.take 6
  if !head.isEmpty && head.all Text.isAsciiDigit then
    let microseconds := Text.value head * Nat.pow 10 (6 - head.length)
    some (microseconds, isEnd ((t.drop 6).dropWhile Text.isAsciiDigit))
  else none

/-- What stands after two digits of a clock. -/
inductive Follows
  | nothing (complete : Bool)
  | fraction (t : Text)
  | unit (t : Text)
  | junk

/-- Looks at the character after two digits. One last character of one byte ends the clock,
whatever it is. -/
def follows (colons : Bool) : Text → Follows
  | [] => .nothing true
  | [c] => if c.utf8Size = 1 then .nothing (isEnd [c]) else .junk
  | c :: rest =>
    if colons && c = ':' then .unit rest
    else if c = '.' || c = ',' then .fraction rest
    else if colons then .junk
    else .unit (c :: rest)

/-- Reads the remaining units of a clock, two digits each; what follows the last is a fraction. -/
def readUnits? (colons : Bool) : Nat → Text → Option (List Int × Int × Bool)
  | 0, t => do
    let (microsecond, complete) ← readFraction? t
    return ([], microsecond, complete)
  | count + 1, t => do
    let (unit, rest) ← digits? 2 t
    match follows colons rest with
    | .nothing complete => return ([unit], 0, complete)
    | .fraction rest =>
      let (microsecond, complete) ← readFraction? rest
      return ([unit], microsecond, complete)
    | .unit rest =>
      let (units, microsecond, complete) ← readUnits? colons count rest
      return (unit :: units, microsecond, complete)
    | .junk => none

/-- Reads a clock. The character after the hours decides whether colons separate the units. -/
def readClock? (t : Text) : Option Clock := do
  let (units, microsecond, complete) ← readUnits? (t[2]? == some ':') 3 t
  return ⟨units.getD 0 0, units.getD 1 0, units.getD 2 0, microsecond, complete⟩

/-- The microseconds of an offset. One that has no whole second counts as zero. -/
def offset (negative : Bool) (c : Clock) : Int :=
  let seconds := c.hour * 3600 + c.minute * 60 + c.second
  let size := if seconds = 0 then 0 else seconds * Moment.secondMicroseconds + c.microsecond
  if negative then -size else size

/-- The offset that a sign begins, in microseconds. It is less than a day in size. -/
def readOffset? (t : Text) : Option Int :=
  match t with
  | 'Z' :: rest => if isEnd rest then some 0 else none
  | sign :: rest => do
    let clock ← readClock? rest
    if !clock.complete then none
    let size := offset (sign = '-') clock
    if -Moment.dayMicroseconds < size && size < Moment.dayMicroseconds then some size else none
  | [] => none

def isOffsetMark (c : Char) : Bool :=
  c = '+' || c = '-' || c = 'Z'

def readTime? (date : Date) (t : Text) : Option Moment := do
  let clock ← readClock? (t.takeWhile fun c => !isOffsetMark c)
  let rest := t.dropWhile fun c => !isOffsetMark c
  let offset? ← if rest.isEmpty then (if clock.complete then some none else none)
    else some <$> readOffset? rest
  return ⟨date, clock.hour, clock.minute, clock.second, clock.microsecond, offset?⟩

/-- Reads a date, and a time of day after any one separator. A separator needs a time after it. -/
def readMoment? (t : Text) : Option Moment := do
  if t.length < 7 then none
  let length ← dateLength? t
  let date ← readDate? (t.take length)
  match t.drop length with
  | [] => return ⟨date, 0, 0, 0, 0, none⟩
  | _ :: time => readTime? date time

/-- The text with a final `Z` written as an offset. -/
def withoutZulu (t : Text) : Text :=
  match t.getLast? with
  | some c => if c = 'Z' || c = 'z' then t.dropLast ++ "+00:00".toList else t
  | none => t

/-- Reads an instant; blanks around it are ignored. -/
def read (t : Text) : Except CalendarError Moment :=
  match readMoment? (withoutZulu (Text.trimmed t)) with
  | none => throw (.malformedInstant t)
  | some m =>
    match m.check with
    | .ok m => return m
    | .error _ => throw (.malformedInstant t)

end Crontab.IsoText
