import Mathlib.Order.Defs.LinearOrder
import Mathlib.Algebra.Order.Group.Int
import Crontab.Calendar.Timestamp

/-! # Years and day numbers

An era has four centuries, a century has leap cycles of four years, and the leap
day is the last one of its year. Main statement: a day lies before a year exactly
when its number is below that of the first day of the year. So the years 1 to
9999 are one interval of day numbers, and one of microseconds.
-/
namespace Crontab
namespace Gregorian
variable {c q y d : Int}

/-- Every fourth year is a leap year, unless it begins a century that is not a fourth one. -/
theorem isLeapYear_iff {year : Int} :
    isLeapYear year = true ↔ 4 ∣ year ∧ (100 ∣ year → 400 ∣ year) := by
  simp only [isLeapYear, Bool.and_eq_true, Bool.or_eq_true, decide_eq_true_eq]
  omega

/-- A century `c` of an era, a leap cycle `q` of the century, a year `y` of the cycle, and a day `d`
of the year. The last cycle of a century has no leap day, except in the last century. -/
structure IsPlace (c q y d : Int) : Prop where
  century : 0 ≤ c ∧ c ≤ 3
  cycle : 0 ≤ q ∧ q ≤ 24
  year : 0 ≤ y ∧ y ≤ 3
  day : 0 ≤ d ∧ (d ≤ 364 ∨ d = 365 ∧ y = 3 ∧ (q ≤ 23 ∨ c = 3))

theorem exists_place {dayOfEra : Int} (hfirst : 0 ≤ dayOfEra) (hlast : dayOfEra < eraDays) :
    ∃ c q y d, IsPlace c q y d ∧ dayOfEra = 36524 * c + 1461 * q + 365 * y + d := by
  unfold eraDays at hlast
  obtain ⟨c, hc⟩ : ∃ c : Int, c = min 3 (dayOfEra / 36524) := ⟨_, rfl⟩
  obtain ⟨q, hq⟩ : ∃ q : Int, q = (dayOfEra - 36524 * c) / 1461 := ⟨_, rfl⟩
  obtain ⟨y, hy⟩ : ∃ y : Int, y = min 3 ((dayOfEra - 36524 * c - 1461 * q) / 365) := ⟨_, rfl⟩
  refine ⟨c, q, y, dayOfEra - 36524 * c - 1461 * q - 365 * y, ⟨?_, ?_, ?_, ?_⟩, ?_⟩ <;> omega

/-- The corrections before the division by 365 take the leap days back out. -/
theorem yearOfEra_place (h : IsPlace c q y d) :
    yearOfEra (36524 * c + 1461 * q + 365 * y + d) = 100 * c + 4 * q + y := by
  obtain ⟨hcentury, hcycle, hyear, hday⟩ := h
  unfold yearOfEra
  generalize hdayOfEra : 36524 * c + 1461 * q + 365 * y + d = dayOfEra
  have hcenturies : dayOfEra / 36524 - dayOfEra / 146096 = c := by
    by_cases hlast : dayOfEra = 146096
    · subst hlast
      omega
    · have hera : dayOfEra / 146096 = 0 := by omega
      have hwhole : dayOfEra / 36524 = c := by omega
      omega
  have hcycles : dayOfEra / 1460 = 25 * c + q + (24 * c + q + 365 * y + d) / 1460 := by omega
  have hcarry : (24 * c + q + 365 * y + d) / 1460 = 0 ∨
      (24 * c + q + 365 * y + d) / 1460 = 1 ∧ 1 ≤ d := by omega
  have hleap : d = 365 → (24 * c + q + 365 * y + d) / 1460 = 1 := by omega
  omega

theorem yearStart_place (h : IsPlace c q y d) :
    yearStart (100 * c + 4 * q + y) = 36524 * c + 1461 * q + 365 * y := by
  obtain ⟨-, hcycle, hyear, -⟩ := h
  unfold yearStart
  omega

/-- A day of an era lies in one of 400 years, and is one of at most 366 days of it. -/
theorem yearOfEra_spec {dayOfEra : Int} (hfirst : 0 ≤ dayOfEra) (hlast : dayOfEra < eraDays) :
    (0 ≤ yearOfEra dayOfEra ∧ yearOfEra dayOfEra < 400) ∧
      0 ≤ dayOfEra - yearStart (yearOfEra dayOfEra) ∧
        dayOfEra - yearStart (yearOfEra dayOfEra) ≤ 365 := by
  obtain ⟨c, q, y, d, hplace, rfl⟩ := exists_place hfirst hlast
  rw [yearOfEra_place hplace, yearStart_place hplace]
  obtain ⟨hcentury, hcycle, hyear, hday⟩ := hplace
  omega

theorem yearStart_add_le {a b : Int} (h : a < b) : yearStart a + 365 ≤ yearStart b := by
  unfold yearStart
  omega

theorem dayOfEra_mem (number : Int) :
    0 ≤ (number + epochShift) % eraDays ∧ (number + epochShift) % eraDays < eraDays := by
  unfold eraDays
  omega

/-- January begins 306 days after March does, and a year with it. -/
theorem year_ofDayNumber (number : Int) : (ofDayNumber number).year =
    (number + epochShift) / eraDays * 400 + yearOfEra ((number + epochShift) % eraDays) +
      if 306 ≤ (number + epochShift) % eraDays -
        yearStart (yearOfEra ((number + epochShift) % eraDays)) then 1 else 0 := by
  obtain ⟨hfirst, hlast⟩ := dayOfEra_mem number
  obtain ⟨-, hday⟩ := yearOfEra_spec hfirst hlast
  unfold ofDayNumber
  dsimp only
  generalize (number + epochShift) % eraDays = dayOfEra at hday
  generalize dayOfEra - yearStart (yearOfEra dayOfEra) = dayOfYear at hday
  have hmonth : (if (5 * dayOfYear + 2) / 153 < 10 then (5 * dayOfYear + 2) / 153 + 3
      else (5 * dayOfYear + 2) / 153 - 9) ≤ 2 ↔ 306 ≤ dayOfYear := by
    split <;> omega
  simp only [hmonth]

theorem dayNumber_newYear (year : Int) : dayNumber ⟨year, 1, 1⟩ =
    (year - 1) / 400 * eraDays + yearStart ((year - 1) % 400) + 306 - epochShift := by
  simp [dayNumber, daysBefore]

/-- A day lies before a year exactly when it lies before the first day of the year. -/
theorem year_lt_iff {number year : Int} :
    (ofDayNumber number).year < year ↔ number < dayNumber ⟨year, 1, 1⟩ := by
  obtain ⟨hfirst, hlast⟩ := dayOfEra_mem number
  obtain ⟨⟨hyear, hyear'⟩, hday, hday'⟩ := yearOfEra_spec hfirst hlast
  rw [year_ofDayNumber, dayNumber_newYear]
  have hstart : 0 ≤ yearStart ((year - 1) % 400) ∧ yearStart ((year - 1) % 400) + 306 < eraDays := by
    unfold yearStart eraDays
    omega
  unfold eraDays at *
  -- Eras are compared first, then years, then days.
  rcases lt_trichotomy ((number + epochShift) / 146097) ((year - 1) / 400) with hera | hera | hera
  · split <;> omega
  · rcases lt_trichotomy (yearOfEra ((number + epochShift) % 146097)) ((year - 1) % 400) with
      hy | hy | hy
    · have hstarts := yearStart_add_le hy
      split <;> omega
    · rw [hy] at hday ⊢
      split <;> omega
    · have hstarts := yearStart_add_le hy
      split <;> omega
  · split <;> omega

end Gregorian

namespace Moment
open Gregorian

/-- Counts of microseconds from the first day of year 1 up to the last one of year 9999. -/
def IsWithinYears (count : Int) : Prop :=
  dayNumber ⟨1, 1, 1⟩ * dayMicroseconds ≤ count ∧
    count < dayNumber ⟨10000, 1, 1⟩ * dayMicroseconds

instance (count : Int) : Decidable (IsWithinYears count) :=
  inferInstanceAs (Decidable (_ ∧ _))

theorem isCalendarYear_iff {number : Int} : isCalendarYear (ofDayNumber number).year = true ↔
    dayNumber ⟨1, 1, 1⟩ ≤ number ∧ number < dayNumber ⟨10000, 1, 1⟩ := by
  have hfirst : 1 ≤ (ofDayNumber number).year ↔ dayNumber ⟨1, 1, 1⟩ ≤ number := by
    rw [← not_lt, year_lt_iff, not_lt]
  have hlast : (ofDayNumber number).year ≤ 9999 ↔ number < dayNumber ⟨10000, 1, 1⟩ := by
    rw [← year_lt_iff]
    omega
  simp only [isCalendarYear, Bool.and_eq_true, decide_eq_true_eq, hfirst, hlast]

theorem isInCalendar_iff {count : Int} : isInCalendar count = true ↔ IsWithinYears count := by
  have hday : 0 < dayMicroseconds := by decide
  rw [isInCalendar, isCalendarYear_iff, IsWithinYears, Int.le_ediv_iff_mul_le hday,
    Int.ediv_lt_iff_lt_mul hday]

theorem isCalendarYear_ofLocalMicroseconds {count : Int} {offset? : Option Int} :
    isCalendarYear (ofLocalMicroseconds count offset?).date.year = true ↔ IsWithinYears count := by
  have hday : count / secondMicroseconds / daySeconds = count / dayMicroseconds := by
    unfold dayMicroseconds secondMicroseconds daySeconds
    omega
  rw [← isInCalendar_iff, isInCalendar, ← hday]
  rfl

end Moment
end Crontab
