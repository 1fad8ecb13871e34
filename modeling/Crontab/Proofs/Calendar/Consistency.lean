import Crontab.Proofs.Calendar.Parts
import Crontab.Proofs.Calendar.Zones

/-! # Parts that agree with each other

Parts of an instant belong to a day of the calendar: the month has the day by the
leap rule and the table of months, and the day of the week follows from the number
of days since 1970-01-01, a Thursday. Main statement: exactly such parts are found.
-/
namespace Crontab

namespace Parts
open Gregorian
variable {p : Parts} {m : Moment}

def date (p : Parts) : Date :=
  ⟨p.year, p.month, p.day⟩

/-- The units are within their bounds, and the day is one of the month and of the week. -/
structure IsConsistent (p : Parts) : Prop where
  inRange : p.InRange
  year : 1 ≤ p.year ∧ p.year ≤ 9999
  day : p.day ≤ if p.monthIndex = 1 ∧ isLeapYear p.year = true then 29
    else daysInMonth.getD p.monthIndex.toNat 0
  weekday : p.weekday = (countedDays p.date + 4) % 7

theorem monthLength_succ (year monthIndex : Int) : monthLength year (monthIndex + 1) =
    if monthIndex = 1 ∧ isLeapYear year = true then 29
      else daysInMonth.getD monthIndex.toNat 0 := by
  have hmonth : monthIndex + 1 = 2 ↔ monthIndex = 1 := by omega
  simp [monthLength, hmonth]

theorem isConsistent_ofMoment (h : m.IsProper) : (ofMoment m).IsConsistent := by
  obtain ⟨hdate, hyear, hhour, hminute, hsecond, hmicrosecond⟩ := h
  obtain ⟨hmonth, hday⟩ := hdate
  have hlength := monthLength_le m.date.year hmonth
  have hback : m.date.month - 1 + 1 = m.date.month := by omega
  refine ⟨⟨?_, ?_, ?_, hhour, hminute, hsecond, ?_⟩, hyear, ?_, ?_⟩
  · simp only [ofMoment]
    omega
  · exact ⟨hday.1, hday.2.trans hlength⟩
  · simp only [ofMoment, Gregorian.weekday]
    omega
  · simp only [ofMoment]
    omega
  · rw [← monthLength_succ]
    simp only [ofMoment, hback]
    exact hday.2
  · simp only [ofMoment, date, month, hback, Gregorian.weekday, dayNumber_eq_countedDays hmonth]

theorem exists_ofMoment (h : p.IsConsistent) : ∃ m : Moment, m.IsProper ∧ ofMoment m = p := by
  obtain ⟨⟨hmonth, hday, -, hhour, hminute, hsecond, hmillisecond⟩, hyear, hlength, hweekday⟩ := h
  have hmonths : 1 ≤ p.month ∧ p.month ≤ 12 := by
    unfold month
    omega
  rw [← monthLength_succ] at hlength
  refine ⟨⟨p.date, p.hour, p.minute, p.second, p.millisecond * 1000, none⟩,
    ⟨⟨hmonths, hday.1, hlength⟩, hyear, hhour, hminute, hsecond, ?_⟩, ?_⟩
  · dsimp only
    omega
  · rw [← dayNumber_eq_countedDays hmonths] at hweekday
    cases p
    simp [ofMoment, date, month, Gregorian.weekday] at hweekday ⊢
    exact hweekday.symm

end Parts

/-- The parts found for an instant, of any kind and in any zone, are consistent, and all consistent
parts are found. So reading them back checks nothing that fails. -/
theorem partsIn_iff_isConsistent (zones : ZoneTable) (p : Parts) :
    ((∃ instant zone?, Instant.IsProper instant ∧ instant.partsIn zones zone? = .ok p) ↔
        p.IsConsistent) ∧
      ((∃ instant zone?, Instant.IsProper instant ∧ instant.toParts zone? = .ok p) ↔
        p.IsConsistent) ∧
      (p.IsConsistent → Parts.read p.entries = .ok p) := by
  have hfound (zones : ZoneTable) :
      (∃ instant zone?, Instant.IsProper instant ∧ instant.partsIn zones zone? = .ok p) ↔
        p.IsConsistent := by
    constructor
    · rintro ⟨instant, zone?, hproper, h⟩
      obtain ⟨m, shown, hm, hshown, rfl⟩ := Instant.partsIn_eq_ok_iff.mp h
      have hmoment := Instant.isProper_of_toMoment hproper hm
      exact Parts.isConsistent_ofMoment (Instant.isProper_of_shownIn hmoment hshown)
    · intro h
      obtain ⟨m, hproper, rfl⟩ := Parts.exists_ofMoment h
      exact ⟨.moment m none, none, hproper, rfl⟩
  exact ⟨hfound zones, hfound Zone.known, fun h => Parts.read_entries h.inRange⟩

/-- The leap day of 2000 is found, and there is none in 1900. -/
theorem partsIn_leapDay :
    (Instant.value (.int 951782400)).toParts none = .ok ⟨2000, 1, 29, 2, 0, 0, 0, 0⟩ ∧
      Parts.IsConsistent ⟨2000, 1, 29, 2, 0, 0, 0, 0⟩ ∧
      Parts.read (Parts.entries ⟨2000, 1, 29, 2, 0, 0, 0, 0⟩) =
        .ok ⟨2000, 1, 29, 2, 0, 0, 0, 0⟩ ∧
      ¬ ∃ instant zone?, Instant.IsProper instant ∧
        instant.toParts zone? = .ok ⟨1900, 1, 29, 4, 0, 0, 0, 0⟩ := by
  have hparts : (Instant.value (.int 951782400)).toParts none =
      .ok ⟨2000, 1, 29, 2, 0, 0, 0, 0⟩ := by
    rfl
  obtain ⟨-, hfound, haccepted⟩ :=
    partsIn_iff_isConsistent Zone.known ⟨2000, 1, 29, 2, 0, 0, 0, 0⟩
  have hconsistent := hfound.mp ⟨.value (.int 951782400), none, trivial, hparts⟩
  refine ⟨hparts, hconsistent, haccepted hconsistent, ?_⟩
  rw [(partsIn_iff_isConsistent Zone.known ⟨1900, 1, 29, 4, 0, 0, 0, 0⟩).2.1]
  intro h
  have hday : (29 : Int) ≤ 28 := h.day
  omega

end Crontab
