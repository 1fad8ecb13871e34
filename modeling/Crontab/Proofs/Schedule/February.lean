import Crontab.Proofs.Calendar.Years
import Crontab.Proofs.Schedule.Coverage

/-! # Schedules for February

The calendar check refuses a schedule in March of a common year if its first
month is February and its last day of the month lies past the 28th. It does not
ask whether that day was chosen: a schedule for every day of February is refused
as well.
-/
namespace Crontab.Schedule
variable {s : Schedule} {p : Parts} {fault : Fault}

/-- The parts lie in March of a common year. -/
def AfterShortFebruary (p : Parts) : Prop :=
  p.month = 3 ∧ Gregorian.isLeapYear p.year = false

instance (p : Parts) : Decidable (AfterShortFebruary p) :=
  inferInstanceAs (Decidable (_ ∧ _))

theorem previousMonth_eq_february {month : Int} : previousMonth month = february ↔ month = 3 := by
  unfold previousMonth february
  split <;> omega

/-- A leap year replaces both sides of the comparison and so never fails it. -/
theorem exceeds_february_iff {first last : Int} :
    (previousMonth p.month = february ∧ first = previousMonth p.month ∧
      (if Gregorian.isLeapYear p.year then 29
        else Gregorian.daysInMonth.getD (previousMonth p.month - 1).toNat 0) <
          (if Gregorian.isLeapYear p.year then 29 else last)) ↔
      AfterShortFebruary p ∧ first = february ∧ 28 < last := by
  unfold AfterShortFebruary
  rw [previousMonth_eq_february, and_assoc]
  refine and_congr_right fun hmonth => ?_
  rw [previousMonth_eq_february.mpr hmonth]
  cases hleap : Gregorian.isLeapYear p.year with
  | true =>
    refine iff_of_false (fun h => ?_) (fun h => nomatch h.1)
    exact Int.lt_irrefl 29 h.2
  | false => simp [Gregorian.daysInMonth, february]

theorem head_of_isWild (h : s.isWild .month = true) : (s.values .month).head? = some 1 := by
  rw [(s.isWild_iff .month).mp h]
  rfl

theorem checkCalendar_eq_error_iff : s.checkCalendar p = .error fault ↔
    AfterShortFebruary p ∧ (s.values .month).head? = some february ∧
      ∃ last, (s.values .dayOfMonth).getLast? = some last ∧ 28 < last ∧
        fault = .dayOutsideMonth february last := by
  unfold checkCalendar
  by_cases hwild : s.isWild .month = true
  · rw [if_pos hwild, head_of_isWild hwild]
    exact ⟨nofun, fun h => absurd h.2.1 (by decide)⟩
  rw [if_neg hwild]
  cases hfirst : (s.values .month).head? with
  | none => exact ⟨nofun, fun h => nomatch h.2.1⟩
  | some first =>
    cases hlast : (s.values .dayOfMonth).getLast? with
    | none => exact ⟨nofun, fun ⟨_, _, _, h, _⟩ => nomatch h⟩
    | some last =>
      dsimp only
      by_cases h : AfterShortFebruary p ∧ first = february ∧ 28 < last
      · rw [if_pos (by simpa [and_assoc] using exceeds_february_iff.mpr h)]
        obtain ⟨hmarch, rfl, hlarge⟩ := h
        rw [previousMonth_eq_february.mpr hmarch.1]
        constructor
        · intro he
          cases he
          exact ⟨hmarch, rfl, last, rfl, hlarge, rfl⟩
        · rintro ⟨-, -, _, hsome, -, rfl⟩
          cases hsome
          rfl
      · rw [if_neg fun he => h (exceeds_february_iff.mp (by simpa [and_assoc] using he))]
        refine ⟨nofun, ?_⟩
        rintro ⟨hmarch, hfebruary, _, hsome, hlarge, -⟩
        cases hfebruary
        cases hsome
        exact absurd ⟨hmarch, rfl, hlarge⟩ h

theorem matchesParts_eq_error_iff :
    s.matchesParts p = .error fault ↔ s.checkCalendar p = .error fault := by
  unfold matchesParts
  cases s.checkCalendar p with
  | ok _ => exact ⟨nofun, nofun⟩
  | error other => exact ⟨fun h => by cases h; rfl, fun h => by cases h; rfl⟩

theorem matchesParts_of_check_ok (hcheck : s.checkCalendar p = .ok ()) :
    ∃ due, s.matchesParts p = .ok due := by
  unfold matchesParts
  rw [hcheck]
  exact ⟨_, rfl⟩

/-- In March of a common year, the schedule begins with February and its days of the month end with
one past the 28th. -/
def ExceedsFebruary (s : Schedule) (p : Parts) (last : Int) : Prop :=
  (p.month = 3 ∧ ¬ (4 ∣ p.year ∧ (100 ∣ p.year → 400 ∣ p.year))) ∧
    (s.values .month).head? = some 2 ∧ (s.values .dayOfMonth).getLast? = some last ∧ 29 ≤ last

theorem exceedsFebruary_iff {last : Int} : s.ExceedsFebruary p last ↔
    AfterShortFebruary p ∧ (s.values .month).head? = some february ∧
      (s.values .dayOfMonth).getLast? = some last ∧ 28 < last := by
  rw [ExceedsFebruary, AfterShortFebruary, ← Gregorian.isLeapYear_iff, Bool.not_eq_true]
  exact Iff.rfl

theorem matchesParts_eq_error_iff_exceeds : s.matchesParts p = .error fault ↔
    ∃ last, s.ExceedsFebruary p last ∧ fault = .dayOutsideMonth 2 last := by
  rw [matchesParts_eq_error_iff, checkCalendar_eq_error_iff]
  constructor
  · rintro ⟨hmarch, hfebruary, last, hlast, hlarge, rfl⟩
    exact ⟨last, exceedsFebruary_iff.mpr ⟨hmarch, hfebruary, hlast, hlarge⟩, rfl⟩
  · rintro ⟨last, hexceeds, rfl⟩
    obtain ⟨hmarch, hfebruary, hlast, hlarge⟩ := exceedsFebruary_iff.mp hexceeds
    exact ⟨hmarch, hfebruary, last, hlast, hlarge, rfl⟩

/-- A schedule is refused exactly if it exceeds February, whatever its other fields and the other
parts are. The refusal tells the day and the month, which is always the second. In all other
cases there is an answer. -/
theorem matchesParts_refused_iff (s : Schedule) (p : Parts) :
    (∀ fault, s.matchesParts p = .error fault ↔ ∃ last, s.ExceedsFebruary p last ∧
      fault = .dayOutsideMonth 2 last ∧
        fault.message = s!"Invalid explicit day of month definition: day {last} in month {2}") ∧
      ((∃ due, s.matchesParts p = .ok due) ↔ ∀ last, ¬ s.ExceedsFebruary p last) := by
  refine ⟨fun fault => ?_, ?_⟩
  · rw [matchesParts_eq_error_iff_exceeds]
    constructor
    · rintro ⟨last, hexceeds, rfl⟩
      exact ⟨last, hexceeds, rfl, rfl⟩
    · rintro ⟨last, hexceeds, hfault, -⟩
      exact ⟨last, hexceeds, hfault⟩
  · cases hmatch : s.matchesParts p with
    | error fault =>
      obtain ⟨last, hexceeds, -⟩ := matchesParts_eq_error_iff_exceeds.mp hmatch
      exact iff_of_false nofun fun h => h last hexceeds
    | ok due =>
      refine iff_of_true ⟨due, rfl⟩ fun last hexceeds => ?_
      cases hmatch.symm.trans (matchesParts_eq_error_iff_exceeds.mpr ⟨last, hexceeds, rfl⟩)

/-- A schedule for every day of the month is refused exactly if its first month is February and the
parts lie in March of a common year, and then for a 31st that nobody asked for. -/
theorem matchesParts_of_covers_days (hdays : s.Covers .dayOfMonth) (p : Parts) :
    if AfterShortFebruary p ∧ (s.values .month).head? = some february then
      s.checkCalendar p = .error (.dayOutsideMonth 2 31) ∧
        s.matchesParts p = .error (.dayOutsideMonth 2 31)
    else s.checkCalendar p = .ok () ∧ ∃ due, s.matchesParts p = .ok due := by
  have hlast : (s.values .dayOfMonth).getLast? = some 31 := by
    rw [hdays]
    rfl
  split
  · next h =>
    have hrefused := checkCalendar_eq_error_iff.mpr ⟨h.1, h.2, 31, hlast, by decide, rfl⟩
    exact ⟨hrefused, matchesParts_eq_error_iff.mpr hrefused⟩
  · next h =>
    cases hcheck : s.checkCalendar p with
    | ok _ => exact ⟨rfl, matchesParts_of_check_ok hcheck⟩
    | error fault =>
      obtain ⟨hmarch, hfirst, -⟩ := checkCalendar_eq_error_iff.mp hcheck
      exact absurd ⟨hmarch, hfirst⟩ h

def februaryNoons : Schedule where
  row := ⟨[0], [0], [12], Field.dayOfMonth.bounds.values, [2], Field.dayOfWeek.bounds.values⟩
  source := "0 0 12 * 2 *".toList
  admitted f := by cases f <;> decide

theorem matchesParts_februaryNoons_march :
    februaryNoons.matchesParts ⟨2023, 2, 5, 0, 12, 0, 0, 0⟩ = .error (.dayOutsideMonth 2 31) ∧
      ∃ due, februaryNoons.matchesParts ⟨2024, 2, 5, 2, 12, 0, 0, 0⟩ = .ok due := by
  have hdays : februaryNoons.Covers .dayOfMonth := rfl
  have hcommon := matchesParts_of_covers_days hdays ⟨2023, 2, 5, 0, 12, 0, 0, 0⟩
  have hleap := matchesParts_of_covers_days hdays ⟨2024, 2, 5, 2, 12, 0, 0, 0⟩
  rw [if_pos (by decide)] at hcommon
  rw [if_neg (by decide)] at hleap
  exact ⟨hcommon.2, hleap.2⟩

/-- An expression that leaves the day of the month open is refused all the same. -/
theorem compile_every_day_of_february_refused :
    ∃ s, compile "0 0 12 * 2 *".toList = .ok s ∧ s.Covers .dayOfMonth ∧
      s.checkCalendar ⟨2023, 2, 5, 0, 12, 0, 0, 0⟩ = .error (.dayOutsideMonth 2 31) ∧
        s.matchesParts ⟨2023, 2, 5, 0, 12, 0, 0, 0⟩ = .error (.dayOutsideMonth 2 31) :=
  ⟨februaryNoons, rfl, rfl, rfl, rfl⟩

end Crontab.Schedule
