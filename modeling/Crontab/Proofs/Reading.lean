import Crontab.Proofs.Outcome
import Crontab.Reading

/-! # When a reader succeeds

A value is read from entries exactly if each of its parts is, and a part that may
be missing is read from its entry or is what stands for it.
-/
namespace Crontab

namespace Checked
variable {α β : Type} {x : Checked α} {y : Checked β}

theorem both_eq_ok_iff {pair : α × β} :
    both x y = .ok pair ↔ x = .ok pair.1 ∧ y = .ok pair.2 := by
  obtain ⟨a, b⟩ := pair
  cases x <;> cases y <;> simp [both]

theorem inside_eq_ok_iff {place : Place} {a : α} : inside place x = .ok a ↔ x = .ok a := by
  cases x <;> simp [inside]

theorem forModel_eq_ok_iff {model : String} {a : α} : forModel model x = .ok a ↔ x = .ok a := by
  cases x <;> simp [forModel]

end Checked

namespace Value
open Checked

theorem integerWithin_eq_ok_iff {least greatest n : Int} {v : Value} :
    integerWithin least greatest v = .ok n ↔ v.integer = .ok n ∧ least ≤ n ∧ n ≤ greatest := by
  unfold integerWithin
  cases v.integer with
  | error findings => exact ⟨nofun, fun h => nomatch h.1⟩
  | ok m =>
    by_cases hleast : m < least
    · simp only [if_pos hleast, complain, Except.ok.injEq]
      exact ⟨nofun, fun h => by omega⟩
    · by_cases hgreatest : greatest < m
      · simp only [if_neg hleast, if_pos hgreatest, complain, Except.ok.injEq]
        exact ⟨nofun, fun h => by omega⟩
      · simp only [if_neg hleast, if_neg hgreatest, Except.ok.injEq]
        exact ⟨fun h => by omega, fun h => h.1⟩

theorem required_eq_ok_iff {α : Type} {entries : List (Value × Value)} {key : String}
    {read : Value → Checked α} {a : α} :
    required entries key read = .ok a ↔ ∃ v, lookup? key.toList entries = some v ∧ read v = .ok a := by
  unfold required
  cases lookup? key.toList entries with
  | none => exact ⟨nofun, fun ⟨_, hv, _⟩ => nomatch hv⟩
  | some v => simp [inside_eq_ok_iff]

theorem optional_eq_ok_iff {α : Type} {entries : List (Value × Value)} {key : String} {absent a : α}
    {read : Value → Checked α} :
    Value.optional entries key absent read = .ok a ↔
      lookup? key.toList entries = none ∧ a = absent ∨
        ∃ v, lookup? key.toList entries = some v ∧ read v = .ok a := by
  unfold Value.optional
  cases lookup? key.toList entries with
  | none => simp [eq_comm]
  | some v => simp [inside_eq_ok_iff]

theorem within_of_required {entries : List (Value × Value)} {key : String} {least greatest n : Int}
    (h : required entries key (integerWithin least greatest) = .ok n) : least ≤ n ∧ n ≤ greatest := by
  obtain ⟨v, -, hv⟩ := required_eq_ok_iff.mp h
  exact (integerWithin_eq_ok_iff.mp hv).2

theorem within_of_optional {entries : List (Value × Value)} {key : String}
    {least greatest absent n : Int}
    (h : Value.optional entries key absent (integerWithin least greatest) = .ok n)
    (habsent : least ≤ absent ∧ absent ≤ greatest) : least ≤ n ∧ n ≤ greatest := by
  rcases optional_eq_ok_iff.mp h with ⟨-, rfl⟩ | ⟨v, -, hv⟩
  · exact habsent
  · exact (integerWithin_eq_ok_iff.mp hv).2

theorem eachInteger_ints (index : Int) (ns : List Int) :
    eachInteger index (ns.map .int) = .ok ns := by
  induction ns generalizing index with
  | nil => rfl
  | cons n rest ih =>
    rw [List.map_cons, eachInteger, ih]
    rfl

end Value

end Crontab
