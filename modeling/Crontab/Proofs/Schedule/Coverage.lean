import Mathlib.Data.List.Perm.Subperm
import Mathlib.Data.List.Sort
import Crontab.Proofs.Field.Resolving
import Crontab.Schedule.Match

/-! # Whole columns

A schedule covers a field when every value of the field is scheduled. The test by
length recognizes exactly this, because ascending values within the bounds are a
sublist of all values and only the whole list has its length.
-/
namespace Crontab
variable {b : Bounds} {scheduled : List Int}

/-- All values between the bounds, ascending. -/
def Bounds.values (b : Bounds) : List Int :=
  Stride.indices b.min b.max

namespace Bounds

theorem mem_values {v : Int} : v ∈ b.values ↔ b.Contains v :=
  Stride.mem_indices

theorem length_values (b : Bounds) : b.values.length = (b.max - b.min + 1).toNat := by
  simp only [values, Stride.indices, List.length_map, List.length_range]

theorem sublist_values (hscheduled : scheduled.Pairwise (· < ·))
    (hwithin : ∀ v ∈ scheduled, b.Contains v) : scheduled.Sublist b.values := by
  have hnodup : scheduled.Nodup := hscheduled.imp fun h => ne_of_lt h
  have hsubset : scheduled ⊆ b.values := fun v hv => mem_values.mpr (hwithin v hv)
  exact List.sublist_of_subperm_of_pairwise (hnodup.subperm hsubset) hscheduled
    (Stride.pairwise_indices b.min b.max)

theorem isWildcardSpan_iff (hscheduled : scheduled.Pairwise (· < ·))
    (hwithin : ∀ v ∈ scheduled, b.Contains v) (hmin : b.min = 0 ∨ b.min = 1) (hmax : b.min ≤ b.max) :
    isWildcardSpan scheduled b = true ↔ scheduled = b.values := by
  have hsublist := sublist_values hscheduled hwithin
  have hlength := b.length_values
  have hexpected : (if b.min < 1 then b.max + 1 else b.max) = (b.values.length : Int) := by
    split <;> omega
  simp only [isWildcardSpan, hexpected, Bool.and_eq_true, Bool.not_eq_true', beq_iff_eq, Int.natCast_inj]
  constructor
  · rintro ⟨-, h⟩
    exact hsublist.eq_of_length h
  · rintro h
    refine ⟨?_, congrArg List.length h⟩
    rw [List.isEmpty_eq_false_iff, ← List.length_pos_iff, h]
    omega

/-- The test by length tells all values of a range from a part of them exactly for the ranges that
start at 0 or 1. For every other range it misses the list of all values. -/
theorem isWildcardSpan_exact_iff (b : Bounds) :
    (∀ scheduled : List Int, scheduled.Pairwise (· < ·) → (∀ v ∈ scheduled, b.Contains v) →
        (isWildcardSpan scheduled b = true ↔
          scheduled = (List.range (b.max - b.min + 1).toNat).map fun k : Nat => b.min + k)) ↔
      b.min ≤ b.max ∧ (b.min = 0 ∨ b.min = 1) := by
  constructor
  · intro h
    have hall : isWildcardSpan b.values b = true :=
      (h b.values (Stride.pairwise_indices b.min b.max) fun _ => mem_values.mp).mpr rfl
    simp only [isWildcardSpan, Bool.and_eq_true, Bool.not_eq_true', beq_iff_eq,
      List.isEmpty_eq_false_iff, ← List.length_pos_iff, b.length_values] at hall
    obtain ⟨hsome, hlength⟩ := hall
    split at hlength <;> omega
  · rintro ⟨hmax, hmin⟩ scheduled hscheduled hwithin
    exact isWildcardSpan_iff hscheduled hwithin hmin hmax

example : isWildcardSpan [2, 3, 4] ⟨2, 4⟩ = false := by decide

end Bounds

namespace Schedule

/-- Every value of the field is scheduled. -/
def Covers (s : Schedule) (f : Field) : Prop :=
  s.values f = f.bounds.values

instance (s : Schedule) (f : Field) : Decidable (s.Covers f) :=
  inferInstanceAs (Decidable (_ = _))

theorem isWild_iff (s : Schedule) (f : Field) : s.isWild f = true ↔ s.Covers f := by
  obtain ⟨hascending, hwithin⟩ := s.admitted f
  refine Bounds.isWildcardSpan_iff hascending hwithin ?_ ?_
  · cases f <;> decide
  · cases f <;> decide

theorem Covers.mem_iff {s : Schedule} {f : Field} (h : s.Covers f) {v : Int} :
    v ∈ s.values f ↔ f.bounds.Contains v := by
  rw [h]
  exact Bounds.mem_values

end Schedule
end Crontab
