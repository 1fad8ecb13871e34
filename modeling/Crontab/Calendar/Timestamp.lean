import Crontab.Calendar.Moment

/-! # Timestamps

Seconds since 1970-01-01 in universal time. A fraction is scaled to
microseconds in binary arithmetic and then rounded, a half going to the even neighbour.
-/
namespace Crontab.Timestamp
open Moment

/-- A timestamp has 63 bits and a sign. -/
def limit : Int := 9223372036854775808

/-- A year is counted from 1900 in 31 bits and a sign. -/
def isPlatformYear (year : Int) : Bool :=
  -2147483648 ≤ year - 1900 && year - 1900 < 2147483648

/-- The years in which a year is wrapped when it is counted from 0 again. -/
def yearCycle : Nat := 4294967296

def moment (seconds microseconds : Int) : Except CalendarError Moment := do
  unless -limit ≤ seconds && seconds < limit do throw .timestampOutOfRange
  let m := ofLocalMicroseconds (seconds * secondMicroseconds + microseconds) (some 0)
  unless isPlatformYear m.date.year do throw .timestampTooLarge
  unless isCalendarYear m.date.year do throw (.yearOutOfRange (m.date.year.bmod yearCycle))
  return m

def microseconds (num den : Nat) : Nat :=
  match Binary64.nearest false (num * 1000000) den with
  | .finite _ mantissa exponent =>
    let (n, d) := Binary64.magnitude mantissa exponent
    roundHalfEven n d
  | _ => 0

def ofBinary64 : Binary64 → Except CalendarError Moment
  | .nan => throw .notANumber
  | .infinite _ => throw .timestampOutOfRange
  | .finite negative mantissa exponent =>
    let (n, d) := Binary64.magnitude mantissa exponent
    let whole : Int := (n / d : Nat)
    let fraction : Int := microseconds (n % d) d
    if negative then
      if fraction = 0 then moment (-whole) 0
      else if 1000000 ≤ fraction then moment (-whole - 1) 0
      else moment (-whole - 1) (1000000 - fraction)
    else
      if 1000000 ≤ fraction then moment (whole + 1) (fraction - 1000000)
      else moment whole fraction

end Crontab.Timestamp
