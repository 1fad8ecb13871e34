import Mathlib.Data.List.Perm.Subperm
import Crontab.Proofs.Field.Lists

/-! # When a comma list is the union of its items

A value is dropped if an item merged before it reaches as high. Items are merged
in the order of all their digits, in which `1-5` is 15 and comes after `10`. So
items without common values may still lose some, and they lose none exactly when
that order is also the order of their values.
-/
namespace Crontab
variable {bound : Int} {values : List Int}

theorem records_eq_self_of_subset (hvalues : values.Nodup) (h : values ⊆ records bound values) :
    records bound values = values :=
  (records_sublist bound values).eq_of_length_le (List.subperm_of_subset hvalues h).length_le

namespace Column.Item
variable {column : Column}

def Below (a b : column.Item) : Prop :=
  ∀ v ∈ a.values, ∀ w ∈ b.values, v < w

instance (a b : column.Item) : Decidable (a.Below b) :=
  inferInstanceAs (Decidable (∀ v ∈ a.values, ∀ w ∈ b.values, v < w))

def Apart (a b : column.Item) : Prop :=
  ∀ v ∈ a.values, v ∉ b.values

instance (a b : column.Item) : Decidable (a.Apart b) :=
  inferInstanceAs (Decidable (∀ v ∈ a.values, v ∉ b.values))

theorem Apart.symm {a b : column.Item} (h : a.Apart b) : b.Apart a :=
  fun v hb ha => h v ha hb

theorem pairwise_values (item : column.Item) : item.values.Pairwise (· < ·) :=
  pairwise_of_compile item.accepted

theorem pairwise_apart_inOrder {items : List column.Item} (h : items.Pairwise Apart) :
    (inOrder items).Pairwise Apart :=
  ((List.mergeSort_perm items _).pairwise_iff Apart.symm).mpr h

end Column.Item

namespace Field
open Column Column.Item
variable {f : Field} {items : List f.column.Item}

theorem lt_of_contains {v : Int} (h : f.bounds.Contains v) : -1 < v := by
  cases f <;> simp only [bounds, Bounds.Contains] at h <;> omega

theorem lt_of_mem_item (item : f.column.Item) : ∀ v ∈ item.values, -1 < v :=
  fun v hv => lt_of_contains ((admits_of_compile item.accepted).2 v hv)

/-- No item of a field loses a value of its own atom. -/
theorem values_item (item : f.column.Item) : item.resolved.values f.column = item.values := by
  obtain ⟨hresolve, hwithin, hvalues⟩ := item.resolve_atom
  have hascends : item.resolved.Ascends := (resolve_outcome (Nat.le_refl _)).of_eq_ok hresolve
  have hbound : ∀ v ∈ item.resolved.values f.column, -1 < v :=
    fun v hv => lt_of_contains (contains_of_mem_values hwithin v hv)
  rw [hvalues, records_eq_self hbound hascends.pairwise_values]

theorem compile_items_eq_ok_iff (hne : items ≠ []) :
    f.column.compile (Text.joined ',' (items.map raw)) = .ok values ↔
      (1 < items.length → ∀ item ∈ items, (digitsOf item.atom).length ≤ Text.digitLimit) ∧
        values = records (-1) ((inOrder items).flatMap Item.values) := by
  rw [compile_joined_eq_ok_iff hne, funext values_item]

theorem records_items_iff (hapart : items.Pairwise Apart) :
    (∀ item ∈ items, ∀ v ∈ item.values, v ∈ records (-1) ((inOrder items).flatMap Item.values)) ↔
      (inOrder items).Pairwise Below := by
  have hbound : ∀ v ∈ (inOrder items).flatMap Item.values, -1 < v := by
    intro v hv
    obtain ⟨item, -, hv⟩ := List.mem_flatMap.mp hv
    exact lt_of_mem_item item v hv
  constructor
  · intro h
    have hnodup : ((inOrder items).flatMap Item.values).Nodup := by
      refine List.pairwise_flatMap.mpr ⟨fun item _ => item.pairwise_values.imp Int.ne_of_lt, ?_⟩
      refine (pairwise_apart_inOrder hapart).imp fun {a b} hab v hv w hw hvw => ?_
      exact hab v hv (hvw ▸ hw)
    have hsubset : (inOrder items).flatMap Item.values ⊆
        records (-1) ((inOrder items).flatMap Item.values) := by
      intro v hv
      obtain ⟨item, hitem, hv⟩ := List.mem_flatMap.mp hv
      exact h item (mem_inOrder.mp hitem) v hv
    have hascends := pairwise_records (-1) ((inOrder items).flatMap Item.values)
    rw [records_eq_self_of_subset hnodup hsubset] at hascends
    exact (List.pairwise_flatMap.mp hascends).2
  · intro h item hitem v hv
    have hascends : ((inOrder items).flatMap Item.values).Pairwise (· < ·) :=
      List.pairwise_flatMap.mpr ⟨fun item _ => item.pairwise_values, h⟩
    rw [records_eq_self hbound hascends]
    exact List.mem_flatMap.mpr ⟨item, mem_inOrder.mpr hitem, hv⟩

/-- A list of items that are apart is accepted unless an atom has too many digits. Its values ascend
and come from the items, and none is lost exactly when the order of merging is that of the values. -/
theorem compile_items_keeps_all_iff (hne : items ≠ []) (hapart : items.Pairwise Apart) :
    ((∃ values, f.column.compile (Text.joined ',' (items.map raw)) = .ok values) ↔
      (1 < items.length → ∀ item ∈ items, (digitsOf item.atom).length ≤ Text.digitLimit)) ∧
    ∀ values, f.column.compile (Text.joined ',' (items.map raw)) = .ok values →
      values.Pairwise (· < ·) ∧ (∀ v ∈ values, ∃ item ∈ items, v ∈ item.values) ∧
        ((∀ item ∈ items, ∀ v ∈ item.values, v ∈ values) ↔ (inOrder items).Pairwise Below) := by
  constructor
  · simp only [compile_items_eq_ok_iff hne, exists_and_left, exists_eq, and_true]
  · intro values hvalues
    obtain ⟨-, rfl⟩ := (compile_items_eq_ok_iff hne).mp hvalues
    refine ⟨pairwise_records _ _, fun v hv => ?_, records_items_iff hapart⟩
    obtain ⟨item, hitem, hv⟩ := List.mem_flatMap.mp ((records_sublist _ _).subset hv)
    exact ⟨item, mem_inOrder.mp hitem, hv⟩

def nightShift : List hour.column.Item :=
  [⟨"23".toList, [23], by decide, rfl⟩,
   ⟨"0-9".toList, [0, 1, 2, 3, 4, 5, 6, 7, 8, 9], by decide, rfl⟩]

theorem compile_nightShift_keeps_all :
    (nightShift ≠ [] ∧ nightShift.Pairwise Apart) ∧
      ∃ values, hour.column.compile "23,0-9".toList = .ok values ∧
        ∀ item ∈ nightShift, ∀ v ∈ item.values, v ∈ values := by
  have hne : nightShift ≠ [] := nofun
  have hapart : nightShift.Pairwise Apart := by decide
  have hlimit : ∀ item ∈ nightShift, (digitsOf item.atom).length ≤ Text.digitLimit := by
    decide
  have hordered : (inOrder nightShift).Pairwise Below := by
    have hsorted : inOrder nightShift = nightShift.reverse := inOrder_pair (by decide)
    rw [hsorted]
    decide
  obtain ⟨haccepted, hkept⟩ := compile_items_keeps_all_iff hne hapart
  obtain ⟨values, hvalues⟩ := haccepted.mpr fun _ => hlimit
  exact ⟨⟨hne, hapart⟩, values, hvalues, (hkept values hvalues).2.2.mpr hordered⟩

def earlyAndTen : List hour.column.Item :=
  [⟨"1-5".toList, [1, 2, 3, 4, 5], by decide, rfl⟩, ⟨"10".toList, [10], by decide, rfl⟩]

/-- Items that are apart may lose values, so a list is not always the union of its items. -/
theorem compile_items_not_always_union :
    ¬ ∀ (f : Field) (items : List f.column.Item), f ≠ dayOfWeek → items ≠ [] →
      items.Pairwise Apart → ∃ values,
        f.column.compile (Text.joined ',' (items.map raw)) = .ok values ∧
          values.Pairwise (· < ·) ∧ ∀ v, v ∈ values ↔ ∃ item ∈ items, v ∈ item.values := by
  intro h
  have hne : earlyAndTen ≠ [] := nofun
  obtain ⟨values, hvalues, -, hunion⟩ := h hour earlyAndTen nofun hne (by decide)
  obtain ⟨-, rfl⟩ := (compile_items_eq_ok_iff hne).mp hvalues
  have hsorted : inOrder earlyAndTen = earlyAndTen.reverse := inOrder_pair (by decide)
  rw [hsorted] at hunion
  have hone := (hunion 1).mpr ⟨_, List.mem_cons_self, List.mem_cons_self⟩
  exact absurd hone (by decide)

end Field
end Crontab
