import Crontab.Proofs.Field.Compiling
import Crontab.Proofs.Field.Sorting

/-! # What a compiled list holds

Merging compares a value with the last one it has kept, and that one is as great as everything
before it, kept or dropped. So a list holds a value of an atom exactly if the value exceeds
all values of the atoms merged earlier, and it ends with the greatest value of all.
-/
namespace Crontab
variable {bound v : Int} {values : List Int}

/-- The last record is as great as the bound and all values, those that were dropped included. -/
theorem last_record_lt_iff :
    (records bound values).getLastD bound < v ↔ bound < v ∧ ∀ w ∈ values, w < v := by
  induction values generalizing bound with
  | nil => simp [records]
  | cons w rest ih =>
    rw [List.forall_mem_cons]
    by_cases h : bound < w
    · rw [records, if_pos h, List.getLastD_cons, ih]
      constructor
      · rintro ⟨hw, hrest⟩
        exact ⟨Int.lt_trans h hw, hw, hrest⟩
      · rintro ⟨-, hw, hrest⟩
        exact ⟨hw, hrest⟩
    · rw [records, if_neg h, ih]
      constructor
      · rintro ⟨hbound, hrest⟩
        exact ⟨hbound, by omega, hrest⟩
      · rintro ⟨hbound, -, hrest⟩
        exact ⟨hbound, hrest⟩

theorem getLast?_records (hbound : ∀ w ∈ values, bound < w) :
    (records bound values).getLast? = values.max? := by
  cases hlast : (records bound values).getLast? with
  | none =>
    have hnil : records bound values = [] := List.getLast?_eq_none_iff.mp hlast
    cases values with
    | nil => rfl
    | cons w rest => simp [records, hbound w List.mem_cons_self] at hnil
  | some last =>
    have hmem : last ∈ values := (records_sublist bound values).subset (List.mem_of_getLast? hlast)
    have hreached : (records bound values).getLastD bound = last := by
      rw [List.getLastD_eq_getLast?, hlast, Option.getD_some]
    have hgreatest : ∀ w ∈ values, w ≤ last := by
      intro w hw
      by_contra hlt
      have hexceeds : (records bound values).getLastD bound < w := by omega
      exact Int.lt_irrefl w ((last_record_lt_iff.mp hexceeds).2 w hw)
    exact (List.max?_eq_some_iff.mpr ⟨hmem, hgreatest⟩).symm

/-- A value of a block is kept exactly if it exceeds the bound and all values of the blocks before,
as long as each block ascends. -/
theorem mem_records_flatMap_iff {α : Type} {blocks : List α} {f : α → List Int}
    (hblocks : ∀ b ∈ blocks, (f b).Pairwise (· ≤ ·)) :
    v ∈ records bound (blocks.flatMap f) ↔ bound < v ∧ ∃ front block back,
      blocks = front ++ block :: back ∧ v ∈ f block ∧ ∀ b ∈ front, ∀ w ∈ f b, w < v := by
  -- Later blocks are held against the last record so far, so the bound varies.
  induction blocks generalizing bound with
  | nil => simp [records]
  | cons first rest ih =>
    obtain ⟨hfirst, hrest⟩ := List.forall_mem_cons.mp hblocks
    rw [List.flatMap_cons, records_append, List.mem_append, mem_records_iff hfirst, ih hrest,
      last_record_lt_iff]
    constructor
    · rintro (⟨hv, hbound⟩ | ⟨⟨hbound, hbefore⟩, front, block, back, rfl, hv, hfront⟩)
      · exact ⟨hbound, [], first, rest, rfl, hv, fun b hb => absurd hb List.not_mem_nil⟩
      · exact ⟨hbound, first :: front, block, back, rfl, hv,
          List.forall_mem_cons.mpr ⟨hbefore, hfront⟩⟩
    · rintro ⟨hbound, front, block, back, heq, hv, hfront⟩
      rcases List.cons_eq_append_iff.mp heq with ⟨rfl, hcons⟩ | ⟨others, rfl, hothers⟩
      · cases hcons
        exact .inl ⟨hv, hbound⟩
      · obtain ⟨hbefore, hlater⟩ := List.forall_mem_cons.mp hfront
        exact .inr ⟨⟨hbound, hbefore⟩, others, block, back, hothers, hv, hlater⟩

namespace Column
variable {column : Column} {raw : Text} {atoms : List Text} {items : List Resolved}

theorem Reads.pairwise_values (h : column.Reads atoms items) :
    ∀ item ∈ items, (item.values column).Pairwise (· < ·) := by
  intro item hitem
  obtain ⟨atom, -, hatom⟩ := exists_entry h.1 hitem
  have hascends : item.Ascends := (resolve_outcome (Nat.le_refl _)).of_eq_ok hatom
  exact hascends.pairwise_values

/-- A compiled list ascends. It holds the values of each atom that exceed all values of the atoms
before it in the order of digits, and its last value is the greatest of all. -/
theorem compile_content (hmin : 0 ≤ column.bounds.min) (hvalues : column.compile raw = .ok values) :
    ∃ text expanded items, column.substitute raw = .ok text ∧
      expandWildcard column.bounds text = .ok expanded ∧
      (digitOrder (Text.pieces ',' expanded)).map column.resolve = items.map .ok ∧
      values.Pairwise (· < ·) ∧
      (∀ v, v ∈ values ↔ ∃ front item back, items = front ++ item :: back ∧
        v ∈ item.values column ∧ ∀ earlier ∈ front, ∀ w ∈ earlier.values column, w < v) ∧
      values.getLast? = (items.flatMap (Resolved.values column)).max? := by
  have hascends := pairwise_of_compile hvalues
  obtain ⟨text, htext, -, atoms, hatoms, items, hreads, rfl⟩ := compile_eq_ok_iff.mp hvalues
  obtain ⟨hspan, -, rfl⟩ := (atoms_eq_ok_iff (Text.pieces_ne_nil ',' _) rfl).mp hatoms
  have hnonneg : ∀ item ∈ items, ∀ v ∈ item.values column, -1 < v := by
    intro item hitem v hv
    have hzero : 0 ≤ v := Resolved.nonneg_of_mem_values hmin (hreads.2 item hitem) hv
    omega
  have hitems : ∀ item ∈ items, (item.values column).Pairwise (· ≤ ·) :=
    fun item hitem => (hreads.pairwise_values item hitem).imp Int.le_of_lt
  refine ⟨text, _, items, htext, expandWildcard_eq_ok_iff.mpr ⟨hspan, rfl⟩, hreads.1, hascends,
    fun v => ?_, getLast?_records ?_⟩
  · rw [mem_records_flatMap_iff hitems]
    constructor
    · exact And.right
    · rintro ⟨front, item, back, rfl, hv, hfront⟩
      exact ⟨hnonneg item (by simp) v hv, front, item, back, rfl, hv, hfront⟩
  · intro v hv
    obtain ⟨item, hitem, hv⟩ := List.mem_flatMap.mp hv
    exact hnonneg item hitem v hv

end Column

namespace Field

/-- Merged are 3, the Sunday that is written 7, 2 to 4, and a range whose step takes no value. -/
theorem compile_content_late_week :
    (0 ≤ dayOfWeek.column.bounds.min ∧
      dayOfWeek.column.compile "7,1-2/5,tue-thu,3".toList = .ok [3, 4]) ∧
      ∃ items, items = [.single 3, .single 7, .run [2, 3, 4], .run []] ∧
        (∀ v, v ∈ [3, 4] ↔ ∃ front item back, items = front ++ item :: back ∧
          v ∈ item.values dayOfWeek.column ∧
            ∀ earlier ∈ front, ∀ w ∈ earlier.values dayOfWeek.column, w < v) ∧
        some 4 = (items.flatMap (Resolved.values dayOfWeek.column)).max? := by
  have hrewritten : dayOfWeek.column.substitute "7,1-2/5,tue-thu,3".toList =
      .ok "7,1-2/5,2-4,3".toList := rfl
  have hexpand : expandWildcard dayOfWeek.column.bounds "7,1-2/5,2-4,3".toList =
      .ok "7,1-2/5,2-4,3".toList := rfl
  have hpieces : Text.pieces ',' "7,1-2/5,2-4,3".toList =
      ["7".toList, "1-2/5".toList, "2-4".toList, "3".toList] := rfl
  have horder : digitOrder ["7".toList, "1-2/5".toList, "2-4".toList, "3".toList] =
      ["3".toList, "7".toList, "2-4".toList, "1-2/5".toList] :=
    digitOrder_of_perm (by decide) (by decide)
  have hatoms : dayOfWeek.column.atoms "7,1-2/5,2-4,3".toList =
      .ok ["3".toList, "7".toList, "2-4".toList, "1-2/5".toList] :=
    (Column.atoms_eq_ok_iff (List.cons_ne_nil _ _) rfl).mpr ⟨rfl, fun _ => by decide, horder.symm⟩
  have hvalues : dayOfWeek.column.compile "7,1-2/5,tue-thu,3".toList = .ok [3, 4] :=
    Column.compile_eq_collect hrewritten
      ⟨List.cons_ne_nil _ _, by exact List.all_eq_true.mp rfl⟩ hatoms
  have hmin : 0 ≤ dayOfWeek.column.bounds.min := by decide
  obtain ⟨text, expanded, items, htext, hexpanded, hitems, -, hmem, hlast⟩ :=
    Column.compile_content hmin hvalues
  cases htext.symm.trans hrewritten
  cases hexpanded.symm.trans hexpand
  rw [hpieces, horder] at hitems
  have hresolved : ["3".toList, "7".toList, "2-4".toList, "1-2/5".toList].map
      dayOfWeek.column.resolve = [.single 3, .single 7, .run [2, 3, 4], .run []].map Except.ok := rfl
  have hitem : items = [.single 3, .single 7, .run [2, 3, 4], .run []] :=
    (List.map_inj_right fun _ _ => Except.ok.inj).mp (hitems.symm.trans hresolved)
  exact ⟨⟨hmin, hvalues⟩, items, hitem, hmem, hlast⟩

end Field
end Crontab
