import Mathlib.Data.List.Induction
import Crontab.Field.Compile
import Crontab.Proofs.Outcome

/-! # What merging keeps

One merge appends the records of its atom: the values above everything before
them. A whole list therefore leaves the records of all its values in the order
in which its atoms are merged, and the result ascends whatever that order is.
-/
namespace Crontab
variable {bound : Int} {values collected : List Int}

theorem records_sublist (bound : Int) (values : List Int) : (records bound values).Sublist values := by
  induction values generalizing bound with
  | nil => exact List.Sublist.refl []
  | cons v rest ih =>
    by_cases h : bound < v
    · simp only [records, if_pos h]
      exact (ih v).cons_cons v
    · simp only [records, if_neg h]
      exact (ih bound).cons v

theorem lt_of_mem_records {v : Int} (hv : v ∈ records bound values) : bound < v := by
  induction values generalizing bound with
  | nil => cases hv
  | cons w rest ih =>
    by_cases h : bound < w
    · simp only [records, if_pos h] at hv
      rcases List.mem_cons.mp hv with rfl | hv
      · exact h
      · exact Int.lt_trans h (ih hv)
    · simp only [records, if_neg h] at hv
      exact ih hv

theorem pairwise_records (bound : Int) (values : List Int) :
    (records bound values).Pairwise (· < ·) := by
  induction values generalizing bound with
  | nil => exact List.Pairwise.nil
  | cons v rest ih =>
    by_cases h : bound < v
    · simp only [records, if_pos h]
      exact List.pairwise_cons.mpr ⟨fun w hw => lt_of_mem_records hw, ih v⟩
    · simp only [records, if_neg h]
      exact ih bound

theorem records_append (bound : Int) (front back : List Int) :
    records bound (front ++ back) =
      records bound front ++ records ((records bound front).getLastD bound) back := by
  induction front generalizing bound with
  | nil => rfl
  | cons v rest ih =>
    by_cases h : bound < v
    · simp only [List.cons_append, records, if_pos h, ih v, List.getLastD_cons]
    · simp only [List.cons_append, records, if_neg h, ih bound]

/-- Nothing is dropped from values that already ascend from above the bound. -/
theorem records_eq_self (hbound : ∀ v ∈ values, bound < v) (hvalues : values.Pairwise (· < ·)) :
    records bound values = values := by
  induction values generalizing bound with
  | nil => rfl
  | cons v rest ih =>
    obtain ⟨hv, hrest⟩ := List.pairwise_cons.mp hvalues
    simp only [records, if_pos (hbound v List.mem_cons_self), ih hv hrest]

/-- From ascending values only those up to the bound are dropped. -/
theorem mem_records_iff {v : Int} (hvalues : values.Pairwise (· ≤ ·)) :
    v ∈ records bound values ↔ v ∈ values ∧ bound < v := by
  induction values generalizing bound with
  | nil => simp [records]
  | cons w rest ih =>
    obtain ⟨hw, hrest⟩ := List.pairwise_cons.mp hvalues
    by_cases h : bound < w
    · rw [records, if_pos h, List.mem_cons, List.mem_cons, ih hrest]
      constructor
      · rintro (rfl | ⟨hv, hlt⟩)
        · exact ⟨.inl rfl, h⟩
        · exact ⟨.inr hv, Int.lt_trans h hlt⟩
      · rintro ⟨rfl | hv, -⟩
        · exact .inl rfl
        · have hle := hw v hv
          by_cases heq : v = w
          · exact .inl heq
          · exact .inr ⟨hv, by omega⟩
    · rw [records, if_neg h, List.mem_cons, ih hrest]
      constructor
      · rintro ⟨hv, hlt⟩
        exact ⟨.inr hv, hlt⟩
      · rintro ⟨rfl | hv, hlt⟩
        · exact absurd hlt h
        · exact ⟨hv, hlt⟩

namespace Column

theorem runningMax_append_records (collected values : List Int) :
    runningMax (collected ++ records (runningMax collected) values) =
      (records (runningMax collected) values).getLastD (runningMax collected) := by
  simp only [runningMax, List.getLastD_eq_getLast?, List.getLast?_append]
  cases (records (collected.getLast?.getD (-1)) values).getLast? <;> rfl

theorem le_runningMax (hcollected : collected.Pairwise (· < ·)) {v : Int} (hv : v ∈ collected) :
    v ≤ runningMax collected := by
  induction collected using List.reverseRecOn with
  | nil => cases hv
  | append_singleton front last _ =>
    rw [runningMax, List.getLastD_concat]
    rcases List.mem_append.mp hv with hv | hv
    · exact Int.le_of_lt <|
        (List.pairwise_append.mp hcollected).2.2 v hv last (List.mem_singleton.mpr rfl)
    · exact Int.le_of_eq (List.mem_singleton.mp hv)

theorem pairwise_append_records (hcollected : collected.Pairwise (· < ·)) (values : List Int) :
    (collected ++ records (runningMax collected) values).Pairwise (· < ·) := by
  refine List.pairwise_append.mpr ⟨hcollected, pairwise_records _ _, fun a ha b hb => ?_⟩
  exact Int.lt_of_le_of_lt (le_runningMax hcollected ha) (lt_of_mem_records hb)

variable {column : Column} {atoms : List Text} {merged : List Int} {resolved : Resolved}

theorem merge_eq_ok_iff :
    column.merge collected resolved = .ok merged ↔
      (∀ v ∈ resolved.written, column.bounds.Contains v) ∧
        merged = collected ++ records (runningMax collected) (resolved.values column) := by
  unfold merge
  cases h : resolved.written.find? fun v => !decide (column.bounds.Contains v) with
  | some v =>
    have hv : ¬ column.bounds.Contains v := by simpa using List.find?_some h
    refine ⟨nofun, fun ⟨hall, _⟩ => ?_⟩
    exact absurd (hall v (List.mem_of_find?_eq_some h)) hv
  | none =>
    have hall : ∀ v ∈ resolved.written, column.bounds.Contains v := by
      simpa using List.find?_eq_none.mp h
    exact ⟨fun he => by cases he; exact ⟨hall, rfl⟩, fun ⟨_, he⟩ => by rw [he]; rfl⟩

theorem merge_outcome (column : Column) (collected : List Int) (resolved : Resolved) (longest : Nat) :
    Outcome (Fault.IsTextual longest) (fun _ => True) (column.merge collected resolved) := by
  unfold merge
  split <;> trivial

/-- The atoms stand for the items, all of whose values are within the bounds. -/
def Reads (column : Column) (atoms : List Text) (items : List Resolved) : Prop :=
  atoms.map column.resolve = items.map .ok ∧
    ∀ item ∈ items, ∀ v ∈ item.written, column.bounds.Contains v

theorem reads_nil {items : List Resolved} : column.Reads [] items ↔ items = [] := by
  constructor
  · rintro ⟨h, -⟩
    exact List.map_eq_nil_iff.mp h.symm
  · rintro rfl
    exact ⟨rfl, nofun⟩

theorem reads_cons {atom : Text} {rest : List Text} {items : List Resolved} :
    column.Reads (atom :: rest) items ↔ ∃ item others, items = item :: others ∧
      column.resolve atom = .ok item ∧ (∀ v ∈ item.written, column.bounds.Contains v) ∧
        column.Reads rest others := by
  constructor
  · rintro ⟨h, hwithin⟩
    obtain ⟨item, others, rfl, hitem, hothers⟩ := List.map_eq_cons_iff.mp h.symm
    obtain ⟨hfirst, hrest⟩ := List.forall_mem_cons.mp hwithin
    exact ⟨item, others, rfl, hitem.symm, hfirst, hothers.symm, hrest⟩
  · rintro ⟨item, others, rfl, hitem, hfirst, hothers, hrest⟩
    refine ⟨?_, List.forall_mem_cons.mpr ⟨hfirst, hrest⟩⟩
    rw [List.map_cons, List.map_cons, hitem, hothers]

/-- A list of atoms leaves the records of all its values. -/
theorem collect_eq_ok_iff :
    column.collect collected atoms = .ok merged ↔ ∃ items, column.Reads atoms items ∧
      merged = collected ++ records (runningMax collected) (items.flatMap (Resolved.values column)) := by
  induction atoms generalizing collected with
  | nil =>
    simp only [collect, reads_nil, exists_eq_left, List.flatMap_nil, records, List.append_nil]
    exact ⟨fun h => by cases h; rfl, fun h => by rw [h]; rfl⟩
  | cons atom rest ih =>
    simp only [collect, bind_eq_ok_iff, merge_eq_ok_iff, ih, reads_cons]
    constructor
    · rintro ⟨item, hatom, _, ⟨hwithin, rfl⟩, others, hothers, rfl⟩
      refine ⟨item :: others, ⟨item, others, rfl, hatom, hwithin, hothers⟩, ?_⟩
      rw [runningMax_append_records, List.flatMap_cons, records_append, List.append_assoc]
    · rintro ⟨_, ⟨item, others, rfl, hatom, hwithin, hothers⟩, rfl⟩
      refine ⟨item, hatom, _, ⟨hwithin, rfl⟩, others, hothers, ?_⟩
      rw [runningMax_append_records, List.flatMap_cons, records_append, List.append_assoc]

end Column
end Crontab
