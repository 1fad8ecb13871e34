import Crontab.Book
import Mathlib.Data.Char

/-! # The order of texts

Names are listed in the lexicographic order by code point. It is linear, so a
sorted list of distinct names ascends strictly.
-/
namespace Crontab.Text
variable {a b c : Text}

/-- The text stands in front of the other one in the lexicographic order by code point. -/
def Before (a b : Text) : Prop :=
  List.Lex (· < ·) a b

theorem atMost_iff : atMost a b = true ↔ a = b ∨ a.Before b := by
  induction a generalizing b with
  | nil =>
    cases b with
    | nil => exact iff_of_true rfl (Or.inl rfl)
    | cons d b => exact iff_of_true rfl (Or.inr .nil)
  | cons c a ih =>
    cases b with
    | nil => exact iff_of_false Bool.false_ne_true (fun h => h.elim nofun nofun)
    | cons d b =>
      rw [atMost, Bool.or_eq_true, Bool.and_eq_true, decide_eq_true_iff, beq_iff_eq, ih]
      constructor
      · rintro (hlt | ⟨rfl, rfl | hbefore⟩)
        · exact Or.inr (.rel hlt)
        · exact Or.inl rfl
        · exact Or.inr (.cons hbefore)
      · rintro (heq | hbefore)
        · cases heq
          exact Or.inr ⟨rfl, Or.inl rfl⟩
        · cases hbefore with
          | rel hlt => exact Or.inl hlt
          | cons h => exact Or.inr ⟨rfl, Or.inr h⟩

theorem Before.trans (hab : a.Before b) (hbc : b.Before c) : a.Before c :=
  List.lt_trans (α := Char) hab hbc

theorem Before.irrefl (a : Text) : ¬ a.Before a :=
  List.lt_irrefl (α := Char) a

theorem atMost_trans (hab : atMost a b = true) (hbc : atMost b c = true) : atMost a c = true := by
  rw [atMost_iff] at hab hbc ⊢
  rcases hab with rfl | hab
  · exact hbc
  · rcases hbc with rfl | hbc
    · exact Or.inr hab
    · exact Or.inr (hab.trans hbc)

theorem atMost_antisymm (hab : atMost a b = true) (hba : atMost b a = true) : a = b := by
  rw [atMost_iff] at hab hba
  rcases hab with rfl | hab
  · rfl
  · rcases hba with rfl | hba
    · rfl
    · exact absurd (hab.trans hba) (Before.irrefl a)

theorem atMost_total (a b : Text) : (atMost a b || atMost b a) = true := by
  induction a generalizing b with
  | nil => rfl
  | cons c a ih =>
    cases b with
    | nil => rfl
    | cons d b =>
      rcases lt_trichotomy c d with h | rfl | h
      · simp [atMost, h]
      · simpa [atMost] using ih b
      · simp [atMost, h]

end Crontab.Text
