import Crontab.Proofs.Calendar.Dates
import Crontab.Proofs.Outcome
import Crontab.Calendar.Parts

/-! # Moments and their microseconds

A moment that passes its check has a date of the years 1 to 9999 and a time of day.
Main statements: such a moment and the microseconds of its clock determine each
other, and every instant that denotes a moment denotes one of this kind.
-/
namespace Crontab

namespace Moment
open Gregorian
variable {m shown : Moment} {count : Int}

/-- A date of the years 1 to 9999, and a time of day. -/
structure IsProper (m : Moment) : Prop where
  date : m.date.IsProper
  year : 1 ≤ m.date.year ∧ m.date.year ≤ 9999
  hour : 0 ≤ m.hour ∧ m.hour ≤ 23
  minute : 0 ≤ m.minute ∧ m.minute ≤ 59
  second : 0 ≤ m.second ∧ m.second ≤ 59
  microsecond : 0 ≤ m.microsecond ∧ m.microsecond ≤ 999999

theorem check_eq_ok_iff : m.check = .ok shown ↔ m.IsProper ∧ m = shown := by
  simp only [check, guarded_eq_ok_iff, pure_eq_ok_iff, isCalendarYear, Bool.and_eq_true,
    decide_eq_true_eq]
  constructor
  · rintro ⟨hyear, hmonth, hday, hhour, hminute, hsecond, hmicrosecond, rfl⟩
    exact ⟨⟨⟨hmonth, hday⟩, hyear, hhour, hminute, hsecond, hmicrosecond⟩, rfl⟩
  · rintro ⟨h, rfl⟩
    exact ⟨h.year, h.date.month, h.date.day, h.hour, h.minute, h.second, h.microsecond, rfl⟩

/-! The microseconds of a clock, and back to what it shows. -/

@[simp] theorem localMicroseconds_ofLocalMicroseconds (count : Int) (offset? : Option Int) :
    (ofLocalMicroseconds count offset?).localMicroseconds = count := by
  simp only [localMicroseconds, ofLocalMicroseconds, dayNumber_ofDayNumber]
  unfold daySeconds secondMicroseconds
  omega

theorem ofLocalMicroseconds_localMicroseconds (h : m.IsProper) :
    ofLocalMicroseconds m.localMicroseconds m.offset? = m := by
  obtain ⟨hdate, -, hhour, hminute, hsecond, hmicrosecond⟩ := h
  obtain ⟨ofDay, hofDay⟩ : ∃ n, m.hour * 3600 + m.minute * 60 + m.second = n := ⟨_, rfl⟩
  have hcount : m.localMicroseconds =
      (dayNumber m.date * 86400 + ofDay) * 1000000 + m.microsecond := by
    simp only [localMicroseconds, secondMicroseconds, daySeconds]
    omega
  have hseconds : m.localMicroseconds / secondMicroseconds =
      dayNumber m.date * 86400 + ofDay := by
    simp only [hcount, secondMicroseconds]
    omega
  have hmicroseconds : m.localMicroseconds % secondMicroseconds = m.microsecond := by
    simp only [hcount, secondMicroseconds]
    omega
  have hday : (dayNumber m.date * 86400 + ofDay) / daySeconds = dayNumber m.date := by
    unfold daySeconds
    omega
  have htime : (dayNumber m.date * 86400 + ofDay) % daySeconds = ofDay := by
    unfold daySeconds
    omega
  simp only [ofLocalMicroseconds, hseconds, hmicroseconds, hday, htime,
    ofDayNumber_dayNumber hdate]
  cases m
  simp only [Moment.mk.injEq, true_and, and_true] at *
  omega

theorem isProper_ofLocalMicroseconds (offset? : Option Int) (h : IsWithinYears count) :
    (ofLocalMicroseconds count offset?).IsProper := by
  have hyear : isCalendarYear (ofLocalMicroseconds count offset?).date.year = true :=
    isCalendarYear_ofLocalMicroseconds.mpr h
  simp only [isCalendarYear, Bool.and_eq_true, decide_eq_true_eq] at hyear
  refine ⟨isProper_ofDayNumber _, hyear, ?_, ?_, ?_, ?_⟩ <;>
    simp only [ofLocalMicroseconds, secondMicroseconds, daySeconds] <;> omega

theorem isWithinYears_localMicroseconds (h : m.IsProper) : IsWithinYears m.localMicroseconds := by
  have hyear : isCalendarYear m.date.year = true := by simp [isCalendarYear, h.year]
  rw [← ofLocalMicroseconds_localMicroseconds h] at hyear
  exact isCalendarYear_ofLocalMicroseconds.mp hyear

/-- Microseconds of universal time since 1970-01-01, the days counted by the lengths of years and
of months. A naive moment is read as universal time. -/
def countedMicroseconds (m : Moment) : Int :=
  (((countedDays m.date * 24 + m.hour) * 60 + m.minute) * 60 + m.second) * 1000000 +
    m.microsecond - m.offset?.getD 0

theorem universalMicroseconds_eq_counted (h : m.IsProper) :
    m.universalMicroseconds = m.countedMicroseconds := by
  simp only [universalMicroseconds, localMicroseconds, countedMicroseconds,
    dayNumber_eq_countedDays h.date.month, daySeconds, secondMicroseconds]
  omega

end Moment

namespace Timestamp
open Moment

theorem isPlatformYear_of_isCalendarYear {year : Int} (h : isCalendarYear year = true) :
    isPlatformYear year = true := by
  simp only [isCalendarYear, isPlatformYear, Bool.and_eq_true, decide_eq_true_eq] at h ⊢
  omega

/-- A timestamp is shown by the clock of universal time. -/
theorem moment_eq_ok_iff_shown {seconds microseconds : Int} {m : Moment} :
    moment seconds microseconds = .ok m ↔ m.IsProper ∧ m.offset? = some 0 ∧
      m.localMicroseconds = seconds * secondMicroseconds + microseconds ∧
      -limit ≤ seconds ∧ seconds < limit := by
  unfold moment
  simp only [guarded_eq_ok_iff, pure_eq_ok_iff, Bool.and_eq_true, decide_eq_true_eq,
    isCalendarYear_ofLocalMicroseconds]
  constructor
  · rintro ⟨hsize, -, hyears, rfl⟩
    exact ⟨isProper_ofLocalMicroseconds _ hyears, rfl, by simp, hsize⟩
  · rintro ⟨hproper, hoffset, hcount, hsize⟩
    have hyears : IsWithinYears (seconds * secondMicroseconds + microseconds) :=
      hcount ▸ isWithinYears_localMicroseconds hproper
    refine ⟨hsize, ?_, hyears, ?_⟩
    · exact isPlatformYear_of_isCalendarYear (isCalendarYear_ofLocalMicroseconds.mpr hyears)
    · rw [← hcount, ← hoffset, ofLocalMicroseconds_localMicroseconds hproper]

theorem isProper_of_moment {seconds microseconds : Int} {m : Moment}
    (h : moment seconds microseconds = .ok m) : m.IsProper :=
  (moment_eq_ok_iff_shown.mp h).1

theorem isProper_of_ofBinary64 {x : Binary64} {m : Moment} (h : ofBinary64 x = .ok m) :
    m.IsProper := by
  cases x with
  | nan => cases h
  | infinite negative => cases h
  | finite negative mantissa exponent =>
    simp only [ofBinary64] at h
    repeat' split at h
    all_goals exact isProper_of_moment h

end Timestamp

theorem IsoText.read_eq_ok_iff {t : Text} {m : Moment} :
    read t = .ok m ↔ readMoment? (withoutZulu (Text.trimmed t)) = some m ∧ m.IsProper := by
  unfold read
  cases readMoment? (withoutZulu (Text.trimmed t)) with
  | none => exact ⟨nofun, nofun⟩
  | some shown =>
    simp only [Option.some.injEq]
    constructor
    · intro h
      split at h
      · next checked hchecked =>
        obtain ⟨hproper, rfl⟩ := Moment.check_eq_ok_iff.mp hchecked
        obtain rfl := pure_eq_ok_iff.mp h
        exact ⟨rfl, hproper⟩
      · cases h
    · rintro ⟨rfl, hproper⟩
      rw [Moment.check_eq_ok_iff.mpr ⟨hproper, rfl⟩]
      rfl

namespace Instant

/-- A datetime has a date and a time of day; nothing is asked of other instants. -/
def IsProper : Instant → Prop
  | .moment m _ => m.IsProper
  | .value _ => True

theorem isProper_of_toMoment {instant : Instant} {m : Moment} (hproper : instant.IsProper)
    (h : instant.toMoment = .ok m) : m.IsProper := by
  cases instant with
  | moment shown own? =>
    obtain rfl := pure_eq_ok_iff.mp h
    exact hproper
  | value v =>
    cases v with
    | text t => exact (IsoText.read_eq_ok_iff.mp h).2
    | int n => exact Timestamp.isProper_of_moment h
    | float x => exact Timestamp.isProper_of_ofBinary64 h
    | _ => cases h

end Instant
end Crontab
