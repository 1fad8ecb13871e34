import Crontab.Calendar.Parts
import Crontab.Proofs.Reading

/-! # Parts within their bounds

Reading parts from entries gives parts in range, and every parts in range can be
read.
-/
namespace Crontab

namespace Parts
open Checked Value

/-- Every unit but the year is within its bounds. -/
structure InRange (p : Parts) : Prop where
  monthIndex : 0 ≤ p.monthIndex ∧ p.monthIndex ≤ 11
  day : 1 ≤ p.day ∧ p.day ≤ 31
  weekday : 0 ≤ p.weekday ∧ p.weekday ≤ 6
  hour : 0 ≤ p.hour ∧ p.hour ≤ 23
  minute : 0 ≤ p.minute ∧ p.minute ≤ 59
  second : 0 ≤ p.second ∧ p.second ≤ 59
  millisecond : 0 ≤ p.millisecond ∧ p.millisecond ≤ 999

theorem inRange_of_read {entries : List (Value × Value)} {p : Parts} (h : read entries = .ok p) :
    p.InRange := by
  simp only [read, forModel_eq_ok_iff, map_eq_ok_iff, both_eq_ok_iff] at h
  obtain ⟨_, ⟨-, hmonth, hday, hweekday, hhour, hminute, hsecond, hmillisecond⟩, rfl⟩ := h
  exact ⟨within_of_required hmonth, within_of_required hday, within_of_required hweekday,
    within_of_required hhour, within_of_required hminute, within_of_required hsecond,
    within_of_optional hmillisecond (by decide)⟩

def entries (p : Parts) : List (Value × Value) :=
  [("year", p.year), ("month_index", p.monthIndex), ("day", p.day), ("weekday", p.weekday),
    ("hour", p.hour), ("minute", p.minute), ("second", p.second),
    ("millisecond", p.millisecond)].map fun (key, n) => (.text key.toList, .int n)

theorem read_entries {p : Parts} (h : p.InRange) : read p.entries = .ok p := by
  have hunit {key : String} {least greatest n : Int}
      (hkey : lookup? key.toList p.entries = some (.int n)) (hn : least ≤ n ∧ n ≤ greatest) :
      required p.entries key (integerWithin least greatest) = .ok n :=
    required_eq_ok_iff.mpr ⟨_, hkey, integerWithin_eq_ok_iff.mpr ⟨rfl, hn⟩⟩
  have hmillisecond : integerWithin 0 999 (.int p.millisecond) = .ok p.millisecond :=
    integerWithin_eq_ok_iff.mpr ⟨rfl, h.millisecond⟩
  simp only [read, forModel_eq_ok_iff, map_eq_ok_iff, both_eq_ok_iff]
  exact ⟨(p.year, p.monthIndex, p.day, p.weekday, p.hour, p.minute, p.second, p.millisecond),
    ⟨required_eq_ok_iff.mpr ⟨.int p.year, rfl, rfl⟩, hunit rfl h.monthIndex, hunit rfl h.day,
      hunit rfl h.weekday, hunit rfl h.hour, hunit rfl h.minute, hunit rfl h.second,
      inside_eq_ok_iff.mpr hmillisecond⟩, rfl⟩

theorem inRange_iff_read {p : Parts} : p.InRange ↔ ∃ entries, read entries = .ok p :=
  ⟨fun h => ⟨p.entries, read_entries h⟩, fun ⟨_, h⟩ => inRange_of_read h⟩

end Parts
end Crontab
