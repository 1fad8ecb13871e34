import Crontab.Reading

/-! # Schedules

A row of values, ascending and within bounds, together with the text from which
it was compiled. `Schedule.ofRow` checks a row, and finds a problem exactly where
a field does not admit its values.
-/
namespace Crontab

def isAscending : List Int → Bool
  | a :: b :: rest => a < b && isAscending (b :: rest)
  | _ => true

theorem isAscending_iff {values : List Int} : isAscending values ↔ values.Pairwise (· < ·) := by
  induction values with
  | nil => simp [isAscending]
  | cons a rest ih =>
    cases rest with
    | nil => simp [isAscending]
    | cons b rest =>
      simp only [isAscending, Bool.and_eq_true, decide_eq_true_eq, ih]
      constructor
      · rintro ⟨hab, hrest⟩
        refine List.pairwise_cons.mpr ⟨fun c hc => ?_, hrest⟩
        rcases List.mem_cons.mp hc with rfl | hc
        · exact hab
        · exact Int.lt_trans hab (List.rel_of_pairwise_cons hrest hc)
      · intro h
        exact ⟨List.rel_of_pairwise_cons h List.mem_cons_self, List.Pairwise.of_cons h⟩

namespace Field

/-- Ascending values within the bounds of a field. -/
def Admits (f : Field) (values : List Int) : Prop :=
  values.Pairwise (· < ·) ∧ ∀ v ∈ values, f.bounds.Contains v

instance (f : Field) (values : List Int) : Decidable (f.Admits values) :=
  inferInstanceAs (Decidable (_ ∧ _))

/-- What is wrong with the values of a field: the first one out of bounds, or else the order. -/
def problem? (f : Field) (values : List Int) : Option Complaint :=
  match values.find? fun v => !decide (f.bounds.Contains v) with
  | some v => some (.outside f v)
  | none => if isAscending values then none else some (.unordered f values)

theorem problem?_eq_none_iff {f : Field} {values : List Int} :
    f.problem? values = none ↔ f.Admits values := by
  unfold problem? Admits
  split
  · rename_i v hv
    have hmem := List.mem_of_find?_eq_some hv
    have hout := List.find?_some hv
    simp only [Bool.not_eq_true', decide_eq_false_iff_not] at hout
    exact ⟨fun h => absurd h (by simp), fun h => absurd (h.2 v hmem) hout⟩
  · rename_i hall
    have hwithin : ∀ v ∈ values, f.bounds.Contains v := by
      intro v hv
      simpa using List.find?_eq_none.mp hall v hv
    by_cases h : isAscending values
    · simp only [h, if_true, true_iff]
      exact ⟨isAscending_iff.mp h, hwithin⟩
    · simp only [h]
      exact ⟨fun h => absurd h (by simp), fun hadmits => absurd (isAscending_iff.mpr hadmits.1) h⟩

end Field

/-- The values of every field, and the text that they come from. -/
structure Schedule where
  row : Row (List Int)
  source : Text
  admitted : ∀ f : Field, f.Admits (row.get f)
  deriving DecidableEq, Repr

namespace Schedule

def values (s : Schedule) (f : Field) : List Int :=
  s.row.get f

def problem? (row : Row (List Int)) : Option Complaint :=
  Field.all.findSome? fun f => f.problem? (row.get f)

theorem problem?_eq_none_iff {row : Row (List Int)} :
    problem? row = none ↔ ∀ f : Field, f.Admits (row.get f) := by
  simp only [problem?, List.findSome?_eq_none_iff, Field.problem?_eq_none_iff]
  exact ⟨fun h f => h f (Field.mem_all f), fun h f _ => h f⟩

def ofRow (row : Row (List Int)) (source : Text) : Except Fault Schedule :=
  match h : problem? row with
  | some complaint => throw (.invalid ⟨"CompiledExpression", [⟨[], complaint⟩]⟩)
  | none => return ⟨row, source, problem?_eq_none_iff.mp h⟩

/-- A row makes a schedule exactly when every field admits its values. -/
theorem ofRow_eq_ok_iff {row : Row (List Int)} {source : Text} {s : Schedule} :
    ofRow row source = .ok s ↔ s.row = row ∧ s.source = source := by
  unfold ofRow
  split
  · rename_i complaint h
    refine ⟨fun h => absurd h (by simp [throw, throwThe, MonadExceptOf.throw]), ?_⟩
    rintro ⟨rfl, -⟩
    rw [problem?_eq_none_iff.mpr s.admitted] at h
    cases h
  · obtain ⟨r, t, hs⟩ := s
    simp only [pure, Except.pure, Except.ok.injEq, Schedule.mk.injEq, eq_comm]

/-- The rows and the text of given entries, read but not yet checked against the bounds. -/
def readEntries (entries : List (Value × Value)) : Checked (Row (List Int) × Text) :=
  let column (f : Field) := Value.required entries f.name Value.integers
  let fields :=
    Checked.both (column .second) <| Checked.both (column .minute) <| Checked.both (column .hour) <|
      Checked.both (column .dayOfMonth) <| Checked.both (column .month) (column .dayOfWeek)
  (fun ((second, minute, hour, dayOfMonth, month, dayOfWeek), source) =>
      ({ second, minute, hour, dayOfMonth, month, dayOfWeek }, source)) <$>
    Checked.both fields (Value.optional entries "expression" [] Value.textOnly)

def read (entries : List (Value × Value)) : Except Fault Schedule := do
  let (row, source) ← Checked.forModel "CompiledExpression" (readEntries entries)
  ofRow row source

end Schedule
end Crontab
