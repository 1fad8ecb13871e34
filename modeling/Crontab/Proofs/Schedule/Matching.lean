import Crontab.Proofs.Calendar.Parts
import Crontab.Proofs.Schedule.Coverage

/-! # Matching is membership

On ascending values the comparison past the last value never succeeds, so a part
matches exactly when it is scheduled. With the test for whole columns this turns
the match of a schedule into the day rule and four memberships.
-/
namespace Crontab

variable {scheduled : List Int}

/-- What stands past the last scheduled value is compared with the first one, and that one lies
below it like all the others. -/
theorem fieldMatches_iff_find? (scheduled : List Int) (v : Int) :
    fieldMatches v scheduled = true ↔ scheduled.find? (fun s => v ≤ s) = some v := by
  unfold fieldMatches
  cases hfind : scheduled.find? fun s => v ≤ s with
  | some s => rw [beq_iff_eq, Option.some.injEq]
  | none =>
    have hbelow : ∀ s ∈ scheduled, ¬ v ≤ s := by simpa using hfind
    have hhead : scheduled.head? ≠ some v :=
      fun hhead => hbelow v (List.mem_of_head? hhead) (Int.le_refl v)
    exact iff_of_false (mt beq_iff_eq.mp hhead) nofun

theorem fieldMatches_iff_mem (h : scheduled.Pairwise (· < ·)) (v : Int) :
    fieldMatches v scheduled = true ↔ v ∈ scheduled := by
  rw [fieldMatches_iff_find?]
  constructor
  · exact List.mem_of_find?_eq_some
  · intro hv
    obtain ⟨before, after, rfl⟩ := List.append_of_mem hv
    have hbefore : ∀ s ∈ before, s < v :=
      fun s hs => (List.pairwise_append.mp h).2.2 s hs v List.mem_cons_self
    refine List.find?_eq_some_iff_append.mpr ⟨by simp, before, after, rfl, fun s hs => ?_⟩
    have := hbefore s hs
    simpa using this

/-- The comparison with the first value can be left out for any list. If the values ascend, what
matches is exactly what is scheduled. -/
theorem fieldMatches_eq_scan (scheduled : List Int) (v : Int) :
    fieldMatches v scheduled = (scheduled.find? (fun s => v ≤ s) == some v) ∧
      (scheduled.Pairwise (· < ·) → (fieldMatches v scheduled = true ↔ v ∈ scheduled)) := by
  constructor
  · rw [Bool.eq_iff_iff, beq_iff_eq]
    exact fieldMatches_iff_find? scheduled v
  · intro hascends
    exact fieldMatches_iff_mem hascends v

def quarters : List Int := [0, 15, 30, 45]

theorem fieldMatches_quarters_past_last :
    quarters.Pairwise (· < ·) ∧ (fieldMatches 60 quarters = true ↔ 60 ∈ quarters) ∧
      fieldMatches 60 quarters = false := by
  have hascends : quarters.Pairwise (· < ·) := by decide
  have hnot : 60 ∉ quarters := by decide
  obtain ⟨-, hmatch⟩ := fieldMatches_eq_scan quarters 60
  exact ⟨hascends, hmatch hascends, Bool.eq_false_iff.mpr fun h => hnot ((hmatch hascends).mp h)⟩

namespace Schedule
variable {s : Schedule} {p : Parts}

/-- The day of the month and the day of the week both decide if one of them is unrestricted, and
either of them is enough if both are restricted. -/
def DayDue (s : Schedule) (p : Parts) : Prop :=
  if s.Covers .dayOfMonth ∨ s.Covers .dayOfWeek then
    p.day ∈ s.values .dayOfMonth ∧ p.weekday ∈ s.values .dayOfWeek
  else p.day ∈ s.values .dayOfMonth ∨ p.weekday ∈ s.values .dayOfWeek

instance (s : Schedule) (p : Parts) : Decidable (s.DayDue p) :=
  inferInstanceAs (Decidable (ite _ _ _))

/-- Every part is scheduled, the two days by their rule. -/
def Due (s : Schedule) (p : Parts) : Prop :=
  s.DayDue p ∧ p.month ∈ s.values .month ∧ p.hour ∈ s.values .hour ∧
    p.minute ∈ s.values .minute ∧ p.second ∈ s.values .second

instance (s : Schedule) (p : Parts) : Decidable (s.Due p) :=
  inferInstanceAs (Decidable (_ ∧ _))

theorem fieldMatches_values (s : Schedule) (f : Field) (v : Int) :
    fieldMatches v (s.values f) = true ↔ v ∈ s.values f :=
  fieldMatches_iff_mem (s.admitted f).1 v

/-- The exits as one choice between the two fields. The last exit is never taken, since the first
one leaves whenever its condition holds. -/
theorem dayMatches_eq (s : Schedule) (p : Parts) :
    s.dayMatches p =
      match s.isWild .dayOfMonth, s.isWild .dayOfWeek with
      | false, true => fieldMatches p.day (s.values .dayOfMonth)
      | true, false => fieldMatches p.weekday (s.values .dayOfWeek)
      | _, _ => fieldMatches p.day (s.values .dayOfMonth) ||
          fieldMatches p.weekday (s.values .dayOfWeek) := by
  unfold dayMatches
  generalize fieldMatches p.day (s.values .dayOfMonth) = inMonth
  generalize fieldMatches p.weekday (s.values .dayOfWeek) = inWeek
  cases s.isWild .dayOfMonth <;> cases s.isWild .dayOfWeek <;> cases inMonth <;> cases inWeek <;>
    rfl

/-- The branches on the two whole columns agree with the rule because parts in range lie in every
whole column. -/
theorem dayMatches_iff (hp : p.InRange) : s.dayMatches p = true ↔ s.DayDue p := by
  have hday : s.isWild .dayOfMonth = true → p.day ∈ s.values .dayOfMonth := fun h =>
    ((s.isWild_iff _).mp h).mem_iff.mpr hp.day
  have hweekday : s.isWild .dayOfWeek = true → p.weekday ∈ s.values .dayOfWeek := fun h =>
    ((s.isWild_iff _).mp h).mem_iff.mpr ⟨hp.weekday.1, Int.le_trans hp.weekday.2 (by decide)⟩
  simp only [dayMatches_eq, DayDue, ← isWild_iff]
  cases hmonth : s.isWild .dayOfMonth with
  | true =>
    cases hweek : s.isWild .dayOfWeek with
    | true => simp [fieldMatches_values, hday hmonth, hweekday hweek]
    | false => simp [fieldMatches_values, hday hmonth]
  | false =>
    cases hweek : s.isWild .dayOfWeek with
    | true => simp [fieldMatches_values, hweekday hweek]
    | false => simp [fieldMatches_values]

/-- A schedule that passes the calendar check is due by the day rule and the other four fields. -/
theorem matchesParts_of_check (hp : p.InRange) (hcheck : s.checkCalendar p = .ok ()) :
    s.matchesParts p = .ok (decide (s.Due p)) := by
  have hdue : (s.dayMatches p && fieldMatches p.month (s.values .month) &&
      fieldMatches p.hour (s.values .hour) && fieldMatches p.minute (s.values .minute) &&
      fieldMatches p.second (s.values .second)) = decide (s.Due p) := by
    rw [Bool.eq_iff_iff, decide_eq_true_iff]
    simp only [Bool.and_eq_true, dayMatches_iff hp, fieldMatches_values, Due, and_assoc]
  rw [matchesParts, hcheck, ← hdue]
  rfl

def paydays : Schedule where
  row := ⟨Field.second.bounds.values, [30], [4], [1, 15], Field.month.bounds.values, [5]⟩
  source := "* 30 4 1,15 * 5".toList
  admitted f := by cases f <;> decide

theorem matchesParts_paydays_friday :
    paydays.checkCalendar ⟨2017, 11, 8, 5, 4, 30, 15, 0⟩ = .ok () ∧
      paydays.matchesParts ⟨2017, 11, 8, 5, 4, 30, 15, 0⟩ = .ok true := by
  have hp : Parts.InRange ⟨2017, 11, 8, 5, 4, 30, 15, 0⟩ := by constructor <;> decide
  have hcheck : paydays.checkCalendar ⟨2017, 11, 8, 5, 4, 30, 15, 0⟩ = .ok () := rfl
  have hdue : paydays.Due ⟨2017, 11, 8, 5, 4, 30, 15, 0⟩ := by decide
  exact ⟨hcheck, (matchesParts_of_check hp hcheck).trans (by rw [decide_eq_true hdue])⟩

end Schedule
end Crontab
