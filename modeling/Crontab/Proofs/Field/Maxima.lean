import Crontab.Proofs.Field.Acceptance
import Crontab.Proofs.Field.Content

/-! # What merging a run appends

The values of a run may stand in any order. All of them are checked against the bounds first,
and those that exceed the last value collected and all values in front of them are appended.
-/
namespace Crontab

/-- The values above a bound that exceed all values in front of them, whether these are above the
bound or not. -/
def maximaAbove (bound : Int) (values : List Int) : List Int :=
  (values.zipIdx.filter fun entry =>
    bound < entry.1 ∧ ∀ w ∈ values.take entry.2, w < entry.1).map Prod.fst

theorem maximaAbove_concat (bound : Int) (front : List Int) (v : Int) :
    maximaAbove bound (front ++ [v]) =
      maximaAbove bound front ++ if bound < v ∧ ∀ w ∈ front, w < v then [v] else [] := by
  have hfront : front.zipIdx.filter (fun entry =>
      bound < entry.1 ∧ ∀ w ∈ (front ++ [v]).take entry.2, w < entry.1) =
        front.zipIdx.filter fun entry => bound < entry.1 ∧ ∀ w ∈ front.take entry.2, w < entry.1 := by
    refine List.filter_congr fun entry hentry => ?_
    have hplace : entry.2 ≤ front.length := Nat.le_of_lt (List.snd_lt_of_mem_zipIdx hentry)
    rw [List.take_append_of_le_length hplace]
  rw [maximaAbove, List.zipIdx_append, List.filter_append, List.map_append, hfront, maximaAbove,
    List.append_cancel_left_eq]
  simp only [List.zipIdx_singleton, List.filter_singleton, Nat.zero_add, List.take_left,
    Bool.cond_decide]
  split
  · rfl
  · rfl

/-- To exceed the last value kept is to exceed everything before. -/
theorem records_eq_maximaAbove (bound : Int) (values : List Int) :
    records bound values = maximaAbove bound values := by
  -- From the back, since a value is held against all values in front of it.
  induction values using List.reverseRecOn with
  | nil => rfl
  | append_singleton front v ih =>
    have hlast : records ((records bound front).getLastD bound) [v] =
        if bound < v ∧ ∀ w ∈ front, w < v then [v] else [] :=
      if_congr last_record_lt_iff rfl rfl
    rw [records_append, maximaAbove_concat, hlast, ih]

namespace Column

/-- Merging a run fails for its first value out of bounds, be it one that would be dropped. Otherwise
it appends the values that exceed the last one collected and all values of the run in front of
them, so what was collected stays in front and the order ascends if it did before. -/
theorem merge_run_appends_maxima (column : Column) (collected values : List Int) :
    (∀ fault, column.merge collected (.run values) = .error fault ↔
        ∃ v, IsFirst (fun v => ¬ column.bounds.Contains v) values v ∧
          fault = .parse (.valueOutside column.label v column.bounds)) ∧
      (∀ merged, column.merge collected (.run values) = .ok merged ↔
        (∀ v ∈ values, column.bounds.Contains v) ∧
          merged = collected ++ maximaAbove (collected.getLastD (-1)) values) ∧
      ∀ merged, column.merge collected (.run values) = .ok merged →
        collected <+: merged ∧ (collected.Pairwise (· < ·) → merged.Pairwise (· < ·)) := by
  have hsuccess (merged : List Int) : column.merge collected (.run values) = .ok merged ↔
      (∀ v ∈ values, column.bounds.Contains v) ∧
        merged = collected ++ records (runningMax collected) values :=
    merge_eq_ok_iff
  refine ⟨fun fault => ?_, fun merged => ?_, fun merged hmerged => ?_⟩
  · simp only [merge_eq_error_iff, find?_not_eq_some_iff, Resolved.written]
  · rw [hsuccess, runningMax, records_eq_maximaAbove]
  · obtain ⟨-, rfl⟩ := (hsuccess merged).mp hmerged
    exact ⟨List.prefix_append _ _, fun h => pairwise_append_records h values⟩

/-- A run of days is not folded, and a value below the last one is refused as well. -/
theorem merge_run_scattered_days :
    (Field.dayOfWeek.column.merge [1, 3] (.run [2, 5, 4, 5, 7]) = .ok [1, 3, 5, 7] ∧
        ([1, 3] : List Int) <+: [1, 3, 5, 7] ∧ ([1, 3, 5, 7] : List Int).Pairwise (· < ·)) ∧
      Field.dayOfWeek.column.merge [1, 3] (.run [6, -1, 9]) =
        .error (.parse (.valueOutside "day_of_week" (-1) ⟨0, 7⟩)) := by
  obtain ⟨-, hsuccess, hkept⟩ := merge_run_appends_maxima Field.dayOfWeek.column [1, 3] [2, 5, 4, 5, 7]
  have hmerged := (hsuccess [1, 3, 5, 7]).mpr ⟨by decide, by decide⟩
  obtain ⟨hcollected, hascends⟩ := hkept _ hmerged
  refine ⟨⟨hmerged, hcollected, hascends (by decide)⟩, ?_⟩
  refine ((merge_run_appends_maxima Field.dayOfWeek.column [1, 3] [6, -1, 9]).1 _).mpr ?_
  exact ⟨-1, ⟨[6], [9], rfl, by decide, by decide⟩, rfl⟩

end Column
end Crontab
