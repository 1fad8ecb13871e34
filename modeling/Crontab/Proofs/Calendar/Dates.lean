import Mathlib.Tactic.IntervalCases
import Crontab.Proofs.Calendar.Years

/-! # Dates and day numbers

Days are counted by the lengths of years and of months, from the leap rule and the
table of months alone. Main statements: the day number of a date is that count,
and dates and day numbers determine each other. Both go through years that begin
in March, where the leap day is the last one.
-/
namespace Crontab

/-- The month is one of twelve, and it has the day. -/
structure Date.IsProper (date : Date) : Prop where
  month : 1 ≤ date.month ∧ date.month ≤ 12
  day : 1 ≤ date.day ∧ date.day ≤ Gregorian.monthLength date.year date.month

namespace Gregorian
variable {date : Date} {year month day : Int}

/-- Days from the beginning of year 1 to that of a year. -/
def daysBeforeYear (year : Int) : Int :=
  365 * (year - 1) + (year - 1) / 4 - (year - 1) / 100 + (year - 1) / 400

def yearLength (year : Int) : Int :=
  if isLeapYear year then 366 else 365

theorem yearLength_eq_or (year : Int) :
    yearLength year = 365 ∧ ¬ (4 ∣ year ∧ (100 ∣ year → 400 ∣ year)) ∨
      yearLength year = 366 ∧ 4 ∣ year ∧ (100 ∣ year → 400 ∣ year) := by
  unfold yearLength
  split
  · next h => exact .inr ⟨rfl, isLeapYear_iff.mp h⟩
  · next h => exact .inl ⟨rfl, fun hleap => h (isLeapYear_iff.mpr hleap)⟩

/-- Every year adds its own length: the closed form counts the leap years. -/
theorem daysBeforeYear_succ (year : Int) :
    daysBeforeYear (year + 1) = daysBeforeYear year + yearLength year := by
  unfold daysBeforeYear
  rcases yearLength_eq_or year with ⟨hlength, hyear⟩ | ⟨hlength, hyear⟩
  · omega
  · omega

/-- Days of a year before a month: the lengths of the months in front of it. -/
def daysBeforeMonth (year month : Int) : Int :=
  ((List.range (month - 1).toNat).map fun (k : Nat) => monthLength year (k + 1)).sum

/-- Days from 1970-01-01 to a date, counted by the lengths of years and of months. -/
def countedDays (date : Date) : Int :=
  daysBeforeYear date.year - daysBeforeYear 1970 + daysBeforeMonth date.year date.month +
    date.day - 1

theorem daysBeforeMonth_eq (hfirst : 1 ≤ month) (hlast : month ≤ 12) :
    daysBeforeMonth year month =
      daysBefore ((month + 9) % 12) - 306 + if month ≤ 2 then 0 else yearLength year := by
  interval_cases month <;>
    simp [daysBeforeMonth, monthLength, daysInMonth, daysBefore, yearLength, List.range_succ] <;>
    split <;> rfl

theorem monthLength_eq (hfirst : 1 ≤ month) (hlast : month ≤ 12) :
    monthLength year month = if month = 2 then yearLength year - 337
      else daysBefore ((month + 9) % 12 + 1) - daysBefore ((month + 9) % 12) := by
  interval_cases month <;> simp [monthLength, daysInMonth, daysBefore, yearLength]
  split <;> rfl

theorem monthLength_le (year : Int) (hmonth : 1 ≤ month ∧ month ≤ 12) :
    monthLength year month ≤ 31 := by
  have hyear := yearLength_eq_or year
  rw [monthLength_eq hmonth.1 hmonth.2]
  unfold daysBefore
  split <;> omega

theorem eraStart_eq (marchYear : Int) :
    marchYear / 400 * eraDays + yearStart (marchYear % 400) = daysBeforeYear (marchYear + 1) := by
  unfold eraDays yearStart daysBeforeYear
  omega

/-- The day number of a date is its distance from 1970-01-01 in days. -/
theorem dayNumber_eq_countedDays (hmonth : 1 ≤ date.month ∧ date.month ≤ 12) :
    dayNumber date = countedDays date := by
  have hepoch : daysBeforeYear 1970 = 719162 := by decide
  have hyear := daysBeforeYear_succ date.year
  unfold dayNumber countedDays epochShift
  simp only [eraStart_eq]
  rw [daysBeforeMonth_eq hmonth.1 hmonth.2, hepoch]
  split
  · simp only [Int.sub_add_cancel]
    omega
  · omega

section March
variable {marchYear marchMonth dayOfYear : Int}

/-- The date of a day of a month, where years and months are counted from March. -/
def ofMarch (marchYear marchMonth day : Int) : Date :=
  let month := if marchMonth < 10 then marchMonth + 3 else marchMonth - 9
  ⟨marchYear + if month ≤ 2 then 1 else 0, month, day⟩

theorem month_ofMarch (marchYear day : Int) (hmonth : 0 ≤ marchMonth ∧ marchMonth ≤ 11) :
    (1 ≤ (ofMarch marchYear marchMonth day).month ∧
      (ofMarch marchYear marchMonth day).month ≤ 12) ∧
      ((ofMarch marchYear marchMonth day).month + 9) % 12 = marchMonth ∧
      ((ofMarch marchYear marchMonth day).month = 2 ↔ marchMonth = 11) := by
  simp only [ofMarch]
  split <;> omega

theorem exists_ofMarch (hmonth : 1 ≤ date.month ∧ date.month ≤ 12) :
    ∃ marchYear marchMonth, (0 ≤ marchMonth ∧ marchMonth ≤ 11) ∧
      date = ofMarch marchYear marchMonth date.day := by
  obtain ⟨year, month, day⟩ := date
  refine ⟨if month ≤ 2 then year - 1 else year, (month + 9) % 12, by omega, ?_⟩
  dsimp only at hmonth
  simp only [ofMarch, Date.mk.injEq, and_true]
  omega

theorem dayNumber_ofMarch (hmonth : 0 ≤ marchMonth ∧ marchMonth ≤ 11) :
    dayNumber (ofMarch marchYear marchMonth day) =
      daysBeforeYear (marchYear + 1) + daysBefore marchMonth + day - 1 - epochShift := by
  obtain ⟨-, hback, -⟩ := month_ofMarch marchYear day hmonth
  have hyear : (if (ofMarch marchYear marchMonth day).month ≤ 2
      then (ofMarch marchYear marchMonth day).year - 1
      else (ofMarch marchYear marchMonth day).year) = marchYear := by
    simp only [ofMarch]
    split <;> omega
  rw [dayNumber, hyear, hback]
  simp only [eraStart_eq, ofMarch]
  omega

/-- A month ends where the next one begins, and February where the year ends. -/
theorem isProper_ofMarch_iff (hmonth : 0 ≤ marchMonth ∧ marchMonth ≤ 11) :
    (ofMarch marchYear marchMonth day).IsProper ↔ 1 ≤ day ∧ daysBefore marchMonth + day ≤
      if marchMonth = 11 then yearLength (marchYear + 1) else daysBefore (marchMonth + 1) := by
  obtain ⟨hmonths, hback, hfebruary⟩ := month_ofMarch marchYear day hmonth
  have hiff : (ofMarch marchYear marchMonth day).IsProper ↔ 1 ≤ day ∧
      day ≤ monthLength (ofMarch marchYear marchMonth day).year
        (ofMarch marchYear marchMonth day).month :=
    ⟨fun h => h.day, fun h => ⟨hmonths, h⟩⟩
  rw [hiff, monthLength_eq hmonths.1 hmonths.2, hback]
  by_cases hlast : marchMonth = 11
  · have hbefore : daysBefore 11 = 337 := by decide
    rw [if_pos (hfebruary.mpr hlast), if_pos hlast]
    subst hlast
    rw [hbefore]
    change _ ∧ day ≤ yearLength (marchYear + 1) - 337 ↔ _
    omega
  · rw [if_neg fun h => hlast (hfebruary.mp h), if_neg hlast]
    omega

theorem marchMonth_iff (hlast : dayOfYear ≤ 365) :
    (5 * dayOfYear + 2) / 153 = marchMonth ↔ daysBefore marchMonth ≤ dayOfYear ∧
      (marchMonth = 11 ∨ dayOfYear < daysBefore (marchMonth + 1)) := by
  unfold daysBefore
  omega

theorem lt_yearLength_iff {c q y d : Int} (hcentury : 0 ≤ c ∧ c ≤ 3) (hcycle : 0 ≤ q ∧ q ≤ 24)
    (hyear : 0 ≤ y ∧ y ≤ 3) :
    d < yearLength (100 * c + 4 * q + y + 1) ↔
      d ≤ 364 ∨ d = 365 ∧ y = 3 ∧ (q ≤ 23 ∨ c = 3) := by
  rcases yearLength_eq_or (100 * c + 4 * q + y + 1) with ⟨hlength, hleap⟩ | ⟨hlength, hleap⟩
  · omega
  · omega

theorem yearLength_era (era year : Int) : yearLength (era * 400 + year) = yearLength year := by
  rcases yearLength_eq_or (era * 400 + year) with ⟨hlength, hleap⟩ | ⟨hlength, hleap⟩ <;>
    rcases yearLength_eq_or year with ⟨hlength', hleap'⟩ | ⟨hlength', hleap'⟩ <;> omega

/-- A day of an era lies within the length of its year. -/
theorem sub_yearStart_lt {dayOfEra : Int} (hfirst : 0 ≤ dayOfEra) (hlast : dayOfEra < eraDays) :
    dayOfEra - yearStart (yearOfEra dayOfEra) < yearLength (yearOfEra dayOfEra + 1) := by
  obtain ⟨c, q, y, d, hplace, rfl⟩ := exists_place hfirst hlast
  rw [yearOfEra_place hplace, yearStart_place hplace]
  obtain ⟨hcentury, hcycle, hyear, hday⟩ := hplace
  rw [lt_yearLength_iff hcentury hcycle hyear]
  omega

theorem yearOfEra_yearStart_add {y d : Int} (hyear : 0 ≤ y ∧ y < 400)
    (hday : 0 ≤ d ∧ d < yearLength (y + 1)) : yearOfEra (yearStart y + d) = y := by
  obtain ⟨c, q, z, hcentury, hcycle, hz, rfl⟩ : ∃ c q z : Int, (0 ≤ c ∧ c ≤ 3) ∧
      (0 ≤ q ∧ q ≤ 24) ∧ (0 ≤ z ∧ z ≤ 3) ∧ y = 100 * c + 4 * q + z :=
    ⟨y / 100, y % 100 / 4, y % 4, by omega⟩
  have hplace : IsPlace c q z d :=
    ⟨hcentury, hcycle, hz, hday.1, (lt_yearLength_iff hcentury hcycle hz).mp hday.2⟩
  rw [yearStart_place hplace, yearOfEra_place hplace]

theorem exists_marchDay (number : Int) : ∃ marchYear dayOfYear,
    (0 ≤ dayOfYear ∧ dayOfYear < yearLength (marchYear + 1)) ∧
      number = daysBeforeYear (marchYear + 1) + dayOfYear - epochShift := by
  obtain ⟨hfirst, hlast⟩ := dayOfEra_mem number
  obtain ⟨hyear, hday, -⟩ := yearOfEra_spec hfirst hlast
  have hlength := sub_yearStart_lt hfirst hlast
  have hsplit := Int.mul_ediv_add_emod (number + epochShift) eraDays
  generalize (number + epochShift) % eraDays = dayOfEra at *
  generalize (number + epochShift) / eraDays = era at *
  generalize yearOfEra dayOfEra = y at *
  refine ⟨era * 400 + y, dayOfEra - yearStart y, ⟨hday, ?_⟩, ?_⟩
  · rw [Int.add_assoc, yearLength_era]
    exact hlength
  · have hera : (era * 400 + y) / 400 = era := by omega
    have hyearOfEra : (era * 400 + y) % 400 = y := by omega
    rw [← eraStart_eq, hera, hyearOfEra, Int.mul_comm era]
    omega

/-- From the year and the day of the year that a number stands for, its date is read off. -/
theorem ofDayNumber_eq_ofMarch (hday : 0 ≤ dayOfYear ∧ dayOfYear < yearLength (marchYear + 1)) :
    ofDayNumber (daysBeforeYear (marchYear + 1) + dayOfYear - epochShift) =
      ofMarch marchYear ((5 * dayOfYear + 2) / 153)
        (dayOfYear - daysBefore ((5 * dayOfYear + 2) / 153) + 1) := by
  obtain ⟨era, y, hy, rfl⟩ : ∃ era y : Int, (0 ≤ y ∧ y < 400) ∧ marchYear = era * 400 + y :=
    ⟨marchYear / 400, marchYear % 400, by omega⟩
  rw [Int.add_assoc, yearLength_era] at hday
  have hera : (era * 400 + y) / 400 = era := by omega
  have hyearOfEra : (era * 400 + y) % 400 = y := by omega
  have hstart := eraStart_eq (era * 400 + y)
  rw [hera, hyearOfEra] at hstart
  have hshifted : daysBeforeYear (era * 400 + y + 1) + dayOfYear - epochShift + epochShift =
      era * eraDays + (yearStart y + dayOfYear) := by
    omega
  have hdayOfEra : 0 ≤ yearStart y + dayOfYear ∧ yearStart y + dayOfYear < eraDays := by
    have hlength := yearLength_eq_or (y + 1)
    unfold yearStart eraDays
    omega
  have hquotient : (era * eraDays + (yearStart y + dayOfYear)) / eraDays = era := by
    unfold eraDays at *
    omega
  have hremainder : (era * eraDays + (yearStart y + dayOfYear)) % eraDays =
      yearStart y + dayOfYear := by
    unfold eraDays at *
    omega
  unfold ofDayNumber
  dsimp only
  rw [hshifted, hquotient, hremainder, yearOfEra_yearStart_add hy hday, add_sub_cancel_left]
  rfl

end March

theorem dayNumber_ofDayNumber (number : Int) : dayNumber (ofDayNumber number) = number := by
  obtain ⟨marchYear, dayOfYear, hday, rfl⟩ := exists_marchDay number
  have hlength := yearLength_eq_or (marchYear + 1)
  rw [ofDayNumber_eq_ofMarch hday, dayNumber_ofMarch (by omega)]
  omega

theorem isProper_ofDayNumber (number : Int) : (ofDayNumber number).IsProper := by
  obtain ⟨marchYear, dayOfYear, hday, rfl⟩ := exists_marchDay number
  have hlength := yearLength_eq_or (marchYear + 1)
  have hlast : dayOfYear ≤ 365 := by omega
  have hmonth : 0 ≤ (5 * dayOfYear + 2) / 153 ∧ (5 * dayOfYear + 2) / 153 ≤ 11 := by omega
  have hbounds := (marchMonth_iff hlast).mp rfl
  rw [ofDayNumber_eq_ofMarch hday, isProper_ofMarch_iff hmonth]
  split <;> omega

theorem ofDayNumber_dayNumber (h : date.IsProper) : ofDayNumber (dayNumber date) = date := by
  obtain ⟨marchYear, marchMonth, hmonth, hdate⟩ := exists_ofMarch h.month
  generalize date.day = day at hdate
  subst hdate
  obtain ⟨hfirst, hlast⟩ := (isProper_ofMarch_iff hmonth).mp h
  have hlength := yearLength_eq_or (marchYear + 1)
  obtain ⟨dayOfYear, hdayOfYear⟩ : ∃ n, daysBefore marchMonth + day - 1 = n := ⟨_, rfl⟩
  have hday : 0 ≤ dayOfYear ∧ dayOfYear < yearLength (marchYear + 1) := by
    unfold daysBefore at *
    split at hlast <;> omega
  have hmarch : (5 * dayOfYear + 2) / 153 = marchMonth := by
    rw [marchMonth_iff (by omega)]
    split at hlast <;> omega
  have hnumber : dayNumber (ofMarch marchYear marchMonth day) =
      daysBeforeYear (marchYear + 1) + dayOfYear - epochShift := by
    rw [dayNumber_ofMarch hmonth]
    omega
  have hback : dayOfYear - daysBefore marchMonth + 1 = day := by omega
  rw [hnumber, ofDayNumber_eq_ofMarch hday, hmarch, hback]

end Gregorian
end Crontab
