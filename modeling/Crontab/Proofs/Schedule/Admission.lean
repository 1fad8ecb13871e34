import Crontab.Proofs.Outcome
import Crontab.Proofs.Reading
import Crontab.Schedule.Basic

/-! # Which rows make a schedule

Fields are judged one after the other, each by its bounds first and by its order only if all values
are within them. The order is judged by neighbours alone, and that decides it throughout. So a
row makes a schedule exactly if every field admits its values, and otherwise the first field
that does not is the one that is reported.
-/
namespace Crontab

variable {values : List Int} {complaint : Complaint}

namespace Field
variable {f : Field}

/-- What is said against the values of a field: the first value out of bounds, or the order if all
values are within them. -/
inductive Rejects (f : Field) (values : List Int) : Complaint → Prop
  | outside {v : Int} (h : IsFirst (fun v => ¬ f.bounds.Contains v) values v) :
    Rejects f values (.outside f v)
  | unordered (hwithin : ∀ v ∈ values, f.bounds.Contains v) (h : ¬ values.Pairwise (· < ·)) :
    Rejects f values (.unordered f values)

theorem problem?_eq_some_iff : f.problem? values = some complaint ↔ f.Rejects values complaint := by
  constructor
  · intro h
    unfold problem? at h
    split at h
    · next v hv =>
      cases h
      exact .outside (find?_not_eq_some_iff.mp hv)
    · next hnone =>
      split at h
      · cases h
      · next hdescends =>
        cases h
        refine .unordered ?_ fun hascends => hdescends (isAscending_iff.mpr hascends)
        simpa using List.find?_eq_none.mp hnone
  · intro h
    unfold problem?
    cases h with
    | outside hv => rw [find?_not_eq_some_iff.mpr hv]
    | unordered hwithin hdescends =>
      have hnone : values.find? (fun v => !decide (f.bounds.Contains v)) = none :=
        List.find?_eq_none.mpr (by simpa using hwithin)
      rw [hnone]
      exact if_neg fun hascends => hdescends (isAscending_iff.mp hascends)

theorem not_admits_iff : ¬ f.Admits values ↔ ∃ complaint, f.Rejects values complaint := by
  simp only [← problem?_eq_none_iff, ← problem?_eq_some_iff, Option.ne_none_iff_exists']

end Field

namespace Schedule
variable {entries : List (Value × Value)} {row : Row (List Int)} {source : Text} {fault : Fault}

/-- A row is refused for the first field that does not admit its values. -/
theorem problem?_eq_some_iff : problem? row = some complaint ↔
    ∃ f, IsFirst (fun f => ¬ f.Admits (row.get f)) Field.all f ∧ f.Rejects (row.get f) complaint := by
  unfold problem?
  rw [List.findSome?_eq_some_iff]
  simp only [Field.problem?_eq_none_iff, Field.problem?_eq_some_iff]
  constructor
  · rintro ⟨front, f, back, hall, hf, hfront⟩
    refine ⟨f, ⟨front, back, hall, ?_, Field.not_admits_iff.mpr ⟨_, hf⟩⟩, hf⟩
    exact fun g hg hrefused => hrefused (hfront g hg)
  · rintro ⟨f, ⟨front, back, hall, hfront, -⟩, hf⟩
    exact ⟨front, f, back, hall, hf, fun g hg => Decidable.not_not.mp (hfront g hg)⟩

theorem ofRow_eq_error_iff : ofRow row source = .error fault ↔
    ∃ complaint, problem? row = some complaint ∧
      fault = .invalid ⟨"CompiledExpression", [⟨[], complaint⟩]⟩ := by
  unfold ofRow
  split
  · next complaint h =>
    rw [h]
    constructor
    · intro hfault
      exact ⟨complaint, rfl, (Except.error.inj hfault).symm⟩
    · rintro ⟨other, hother, rfl⟩
      cases hother
      rfl
  · next h =>
    refine ⟨nofun, fun ⟨complaint, hother, _⟩ => ?_⟩
    cases h.symm.trans hother

/-- The entries hold an array of integers for every field, and the text unless it is empty. Neither
their order nor what they hold besides has a part in it. -/
structure Given (entries : List (Value × Value)) (row : Row (List Int)) (source : Text) : Prop where
  arrays (f : Field) : Value.lookup? f.name.toList entries = some (.list ((row.get f).map .int))
  text : Value.lookup? "expression".toList entries = some (.text source) ∨
    Value.lookup? "expression".toList entries = none ∧ source = []

theorem readEntries_of_given (h : Given entries row source) :
    readEntries entries = .ok (row, source) := by
  have hcolumn (f : Field) : Value.required entries f.name Value.integers = .ok (row.get f) :=
    Value.required_eq_ok_iff.mpr ⟨_, h.arrays f, Value.eachInteger_ints 0 _⟩
  have hsource : Value.optional entries "expression" [] Value.textOnly = .ok source := by
    rw [Value.optional_eq_ok_iff]
    rcases h.text with htext | hnone
    · exact .inr ⟨_, htext, rfl⟩
    · exact .inl hnone
  simp only [readEntries, map_eq_ok_iff, Checked.both_eq_ok_iff]
  exact ⟨((row.second, row.minute, row.hour, row.dayOfMonth, row.month, row.dayOfWeek), source),
    ⟨⟨hcolumn .second, hcolumn .minute, hcolumn .hour, hcolumn .dayOfMonth, hcolumn .month,
      hcolumn .dayOfWeek⟩, hsource⟩, rfl⟩

theorem read_of_given (h : Given entries row source) : read entries = ofRow row source := by
  rw [read, readEntries_of_given h]
  rfl

/-- The entries that hold a row and its text. -/
def entriesOf (row : Row (List Int)) (source : Text) : List (Value × Value) :=
  (.text "expression".toList, .text source) ::
    Field.all.map fun f => (.text f.name.toList, .list ((row.get f).map .int))

theorem given_entriesOf (row : Row (List Int)) (source : Text) :
    Given (entriesOf row source) row source where
  arrays f := by cases f <;> rfl
  text := .inl rfl

/-- Arrays make a schedule exactly if each ascends throughout and stays within the bounds of its
field. Otherwise there is one complaint, about the first field whose array does not: its first
value out of bounds if it has one, or else its order. -/
theorem read_admitted_or_first_complaint (h : Given entries row source) :
    ((∃ s, read entries = .ok s) ↔
        ∀ f : Field, (row.get f).Pairwise (· < ·) ∧ ∀ v ∈ row.get f, f.bounds.Contains v) ∧
      (∀ s, read entries = .ok s → s.row = row ∧ s.source = source) ∧
      ∀ fault, read entries = .error fault ↔ ∃ complaint,
        (∃ f, IsFirst (fun f => ¬ f.Admits (row.get f)) Field.all f ∧
          f.Rejects (row.get f) complaint) ∧
        fault = .invalid ⟨"CompiledExpression", [⟨[], complaint⟩]⟩ := by
  rw [read_of_given h]
  refine ⟨⟨?_, fun hadmits => ?_⟩, fun s hs => ofRow_eq_ok_iff.mp hs, fun fault => ?_⟩
  · rintro ⟨s, hs⟩ f
    obtain ⟨rfl, -⟩ := ofRow_eq_ok_iff.mp hs
    exact s.admitted f
  · exact ⟨⟨row, source, hadmits⟩, ofRow_eq_ok_iff.mpr ⟨rfl, rfl⟩⟩
  · simp only [ofRow_eq_error_iff, problem?_eq_some_iff]

/-- The hours are reported although the month is out of bounds too, and their order only where all
of them are within bounds. -/
theorem read_hours_first :
    (∃ s, read (entriesOf ⟨[0], [0], [3, 5], [1], [12], [7]⟩ "0 0 3,5 1 12 7".toList) = .ok s) ∧
      read (entriesOf ⟨[0], [0], [3, 5, 4], [1], [13], [0]⟩ []) =
        .error (.invalid ⟨"CompiledExpression", [⟨[], .unordered .hour [3, 5, 4]⟩]⟩) ∧
      read (entriesOf ⟨[0], [0], [5, 3, 24, -1], [1], [13], [0]⟩ []) =
        .error (.invalid ⟨"CompiledExpression", [⟨[], .outside .hour 24⟩]⟩) := by
  have hall : Field.all = [.second, .minute] ++ .hour :: [.dayOfMonth, .month, .dayOfWeek] := rfl
  refine ⟨?_, ?_, ?_⟩
  · refine (read_admitted_or_first_complaint (given_entriesOf _ _)).1.mpr fun f => ?_
    cases f <;> decide
  · refine ((read_admitted_or_first_complaint (given_entriesOf _ _)).2.2 _).mpr ?_
    refine ⟨_, ⟨.hour, ⟨_, _, hall, by decide, by decide⟩, ?_⟩, rfl⟩
    exact .unordered (by decide) (by decide)
  · refine ((read_admitted_or_first_complaint (given_entriesOf _ _)).2.2 _).mpr ?_
    refine ⟨_, ⟨.hour, ⟨_, _, hall, by decide, by decide⟩, ?_⟩, rfl⟩
    exact .outside ⟨[5, 3], [-1], rfl, by decide, by decide⟩

end Schedule
end Crontab
