import Crontab.Proofs.Field.Compiling
import Crontab.Proofs.Field.Sorting
import Crontab.Proofs.Schedule.Matching

/-! # Which weeks match Sunday

Sunday is the least day, so merging keeps it only as the very first value. A
single 7 is folded to Sunday after the atoms are put in order, where it stands
behind every other day: alone it is Sunday, and in a list after another day it
is lost.
-/
namespace Crontab
variable {raw : Text} {items : List Resolved} {values : List Int}

theorem zero_mem_records_iff (h : ∀ v ∈ values, 0 ≤ v) :
    0 ∈ records (-1) values ↔ values.head? = some 0 := by
  cases values with
  | nil => exact iff_of_false List.not_mem_nil nofun
  | cons v rest =>
    have hv : -1 < v := by
      have := h v List.mem_cons_self
      omega
    rw [records, if_pos hv, List.mem_cons, List.head?_cons, Option.some.injEq]
    constructor
    · rintro (hzero | hlater)
      · exact hzero.symm
      · have := lt_of_mem_records hlater
        omega
    · intro hzero
      exact .inl hzero.symm

/-- The first value of all is Sunday, written as 0 or as a single 7. -/
def OpensOnSunday : List Resolved → Prop
  | [] => False
  | .single v :: _ => v = 0 ∨ v = 7
  | .run [] :: rest => OpensOnSunday rest
  | .run (v :: _) :: _ => v = 0

instance decidableOpensOnSunday : (items : List Resolved) → Decidable (OpensOnSunday items)
  | [] => inferInstanceAs (Decidable False)
  | .single v :: _ => inferInstanceAs (Decidable (v = 0 ∨ v = 7))
  | .run [] :: rest => decidableOpensOnSunday rest
  | .run (v :: _) :: _ => inferInstanceAs (Decidable (v = 0))

namespace Column

theorem standsFor_of_ordered {column : Column} {text : Text} {atoms : List Text}
    (htext : column.substitute raw = .ok text) (hfine : text ≠ [] ∧ ∀ c ∈ text, isColumnCharacter c)
    (hspan : column.bounds.span = .ok column.bounds.text)
    (hatoms : Text.pieces ',' (writeStars column.bounds.text text) = atoms)
    (hshort : ∀ a ∈ atoms, (digitsOf a).length ≤ Text.digitLimit)
    (hordered : atoms.Pairwise fun a b => digitNumber a ≤ digitNumber b)
    (hitems : atoms.map column.resolve = items.map .ok) : column.StandsFor raw items := by
  have hne : atoms ≠ [] := hatoms ▸ Text.pieces_ne_nil _ _
  have hsorted : digitOrder atoms = atoms := digitOrder_of_pairwise hordered
  exact ⟨text, htext, hfine, atoms, (atoms_eq_ok_iff hne hatoms).mpr ⟨hspan, fun _ => hshort,
    hsorted.symm⟩, hitems⟩

end Column

namespace Field
open Column

/-- Folding leads to Sunday from 0 and from 7 only. -/
theorem opensOnSunday_iff
    (hwithin : ∀ item ∈ items, ∀ v ∈ item.written, dayOfWeek.bounds.Contains v) :
    OpensOnSunday items ↔
      (items.flatMap (Resolved.values dayOfWeek.column)).head? = some 0 := by
  induction items with
  | nil => exact iff_of_false id nofun
  | cons item rest ih =>
    obtain ⟨hitem, hrest⟩ := List.forall_mem_cons.mp hwithin
    cases item with
    | single v =>
      have hv : 0 ≤ v ∧ v ≤ 7 := hitem v List.mem_cons_self
      have hvalues : Resolved.values dayOfWeek.column (.single v) = [v % 7] := rfl
      rw [List.flatMap_cons, hvalues, List.singleton_append, List.head?_cons, Option.some.injEq,
        OpensOnSunday]
      omega
    | run run =>
      cases run with
      | nil => exact ih hrest
      | cons v others =>
        have hvalues : Resolved.values dayOfWeek.column (.run (v :: others)) = v :: others := rfl
        rw [List.flatMap_cons, hvalues, List.cons_append, List.head?_cons, Option.some.injEq,
          OpensOnSunday]

/-- A text that compiles stands for values, and it matches Sunday exactly if the first of them is
Sunday, wherever else 7 is written. -/
theorem fieldMatches_sunday_iff (hvalues : dayOfWeek.column.compile raw = .ok values) :
    (∃ items, dayOfWeek.column.StandsFor raw items) ∧
      ∀ items, dayOfWeek.column.StandsFor raw items →
        (fieldMatches 0 values = true ↔ OpensOnSunday items) := by
  have hexists : ∃ items, dayOfWeek.column.StandsFor raw items := by
    obtain ⟨text, htext, hfine, atoms, hatoms, items, ⟨hitems, -⟩, -⟩ :=
      Column.compile_eq_ok_iff.mp hvalues
    exact ⟨items, text, htext, hfine, atoms, hatoms, hitems⟩
  refine ⟨hexists, fun items hitems => ?_⟩
  have hascends := pairwise_of_compile hvalues
  obtain ⟨hwithin, rfl⟩ := hitems.compile_eq_ok_iff.mp hvalues
  have hnonneg : ∀ v ∈ items.flatMap (Resolved.values dayOfWeek.column), 0 ≤ v := by
    intro v hv
    obtain ⟨item, hitem, hv⟩ := List.mem_flatMap.mp hv
    exact (contains_of_mem_values (hwithin item hitem) v hv).1
  rw [fieldMatches_iff_mem hascends, zero_mem_records_iff hnonneg, opensOnSunday_iff hwithin]

theorem fieldMatches_sunday_early_week :
    (dayOfWeek.column.StandsFor "sun-tue,7".toList [.run [0, 1, 2], .single 7] ∧
      dayOfWeek.column.compile "sun-tue,7".toList = .ok [0, 1, 2]) ∧
      fieldMatches 0 [0, 1, 2] = true := by
  have hitems : dayOfWeek.column.StandsFor "sun-tue,7".toList [.run [0, 1, 2], .single 7] :=
    standsFor_of_ordered rfl ⟨by decide, by exact List.all_eq_true.mp rfl⟩ rfl rfl (by decide)
      (by decide) rfl
  have hvalues := hitems.compile_eq_ok_iff.mpr ⟨by decide, rfl⟩
  obtain ⟨-, hiff⟩ := fieldMatches_sunday_iff hvalues
  exact ⟨⟨hitems, hvalues⟩, (hiff _ hitems).mpr (by decide)⟩

/-- A single 7 behind another day is folded too late, so Sunday is lost. -/
theorem seven_not_always_sunday :
    ¬ ∀ (raw : Text) (items : List Resolved) (values : List Int),
      dayOfWeek.column.StandsFor raw items → dayOfWeek.column.compile raw = .ok values →
        (∃ item ∈ items, 7 ∈ item.written) → fieldMatches 0 values = true := by
  intro h
  have hitems : dayOfWeek.column.StandsFor "1,7".toList [.single 1, .single 7] :=
    standsFor_of_ordered rfl ⟨by decide, by exact List.all_eq_true.mp rfl⟩ rfl rfl (by decide)
      (by decide) rfl
  have hvalues := hitems.compile_eq_ok_iff.mpr ⟨by decide, rfl⟩
  exact absurd (h _ _ _ hitems hvalues (by decide)) (by decide)

end Field
end Crontab
