import Crontab.Proofs.Field.Compiling
import Crontab.Schedule.Compile

/-! # What an expression compiles to

The check at the end of a compilation finds nothing: six columns that compile
always make a schedule. So an expression fails by its text or by a run of digits
beyond the limit, and in no other way.
-/
namespace Crontab
variable {α β : Type}

namespace Row

theorem traverse_outcome {failure : Fault → Prop} {entry : Field → α → Except Fault β} {r : Row α}
    (h : ∀ f, Outcome failure (fun _ => True) (entry f (r.get f))) :
    Outcome failure (fun _ => True) (r.traverse entry) := by
  refine (h .second).bind fun _ _ => ?_
  refine (h .minute).bind fun _ _ => ?_
  refine (h .hour).bind fun _ _ => ?_
  refine (h .dayOfMonth).bind fun _ _ => ?_
  refine (h .month).bind fun _ _ => ?_
  exact (h .dayOfWeek).bind fun _ _ => trivial

/-- A row fails by its first entry that fails. -/
theorem traverse_eq_error_iff {entry : Field → α → Except Fault β} {r : Row α} {fault : Fault} :
    r.traverse entry = .error fault ↔
      ∃ f, FirstFault (fun f => entry f (r.get f)) Field.all f fault := by
  unfold traverse Field.all
  refine bind_eq_error_iff_firstFault (fun _ => Iff.rfl) fun _ => ?_
  refine bind_eq_error_iff_firstFault (fun _ => Iff.rfl) fun _ => ?_
  refine bind_eq_error_iff_firstFault (fun _ => Iff.rfl) fun _ => ?_
  refine bind_eq_error_iff_firstFault (fun _ => Iff.rfl) fun _ => ?_
  refine bind_eq_error_iff_firstFault (fun _ => Iff.rfl) fun _ => ?_
  refine bind_eq_error_iff_firstFault (fun _ => Iff.rfl) fun _ => ?_
  simp [not_firstFault_nil, pure, Except.pure]

end Row

namespace Schedule

theorem ofRow_of_admits {row : Row (List Int)} (h : ∀ f : Field, f.Admits (row.get f))
    (source : Text) : ofRow row source = .ok ⟨row, source, h⟩ :=
  ofRow_eq_ok_iff.mpr ⟨rfl, rfl⟩

theorem compile_of_columns {expression : Text} {row : Row (List Int)}
    (h : ∀ f : Field,
      f.column.compile ((splitExpression expression).get f) = .ok (row.get f)) :
    compile expression = .ok ⟨row, Text.joined ' ' (splitExpression expression).toList,
      fun f => f.admits_of_compile (h f)⟩ := by
  simp only [compile, Row.traverse_eq_ok_iff.mpr h]
  exact ofRow_of_admits _ _

theorem compile_outcome {expression : Text} {failure : Fault → Prop}
    (h : ∀ f : Field, Outcome failure (fun _ => True)
      (f.column.compile ((splitExpression expression).get f))) :
    Outcome failure
      (fun s => ∀ f : Field,
        f.column.compile ((splitExpression expression).get f) = .ok (s.values f))
      (compile expression) := by
  have hrow := Row.traverse_outcome h
  cases hwords : (splitExpression expression).traverse fun f word => f.column.compile word with
  | ok row =>
    have hcolumns := Row.traverse_eq_ok_iff.mp hwords
    rw [compile_of_columns hcolumns]
    exact hcolumns
  | error fault =>
    simp only [compile, hwords]
    exact hrow.of_eq_error hwords

/-- What the column of a field in an expression compiles to. -/
def columnOf (expression : Text) (f : Field) : Except Fault (List Int) :=
  f.column.compile ((splitExpression expression).get f)

/-- An expression fails by its first column that fails. -/
theorem compile_eq_error_iff {expression : Text} {fault : Fault} :
    compile expression = .error fault ↔
      ∃ f, FirstFault (columnOf expression) Field.all f fault := by
  have htraverse : ((splitExpression expression).traverse fun f word => f.column.compile word) =
      .error fault ↔ ∃ f, FirstFault (columnOf expression) Field.all f fault :=
    Row.traverse_eq_error_iff
  rw [← htraverse]
  cases hwords : (splitExpression expression).traverse fun f word => f.column.compile word with
  | ok row =>
    rw [compile_of_columns (Row.traverse_eq_ok_iff.mp hwords)]
    exact ⟨nofun, nofun⟩
  | error cause =>
    simp only [compile, hwords]
    exact ⟨fun h => by cases h; rfl, fun h => by cases h; rfl⟩

theorem columnOf_eq_ok {expression : Text} {s : Schedule} (h : compile expression = .ok s) (f : Field) :
    columnOf expression f = .ok (s.row.get f) := by
  obtain ⟨row, hrow, hs⟩ := bind_eq_ok_iff.mp h
  rw [(ofRow_eq_ok_iff.mp hs).1]
  exact Row.traverse_eq_ok_iff.mp hrow f

/-- Columns that compile give a row in order, and an expression without such a row is refused for
its text or for a run of digits beyond the limit. -/
theorem compile_admitted_or_refused (expression : Text) :
    (∀ row : Row (List Int),
      (∀ f : Field, f.column.compile ((splitExpression expression).get f) = .ok (row.get f)) →
        (∀ f : Field, (row.get f).Pairwise (· < ·) ∧ ∀ v ∈ row.get f, f.bounds.Contains v) ∧
          problem? row = none ∧ ∃ s, compile expression = .ok s ∧ s.row = row) ∧
      ((∃ s, compile expression = .ok s ∧
          ∀ f : Field,
            f.column.compile ((splitExpression expression).get f) = .ok (s.values f)) ∨
        (∃ cause, compile expression = .error (.parse cause)) ∨
        ∃ count, Text.digitLimit < count ∧ compile expression = .error (.digitLimit count)) := by
  constructor
  · intro row hrow
    have hadmits : ∀ f : Field, f.Admits (row.get f) := fun f => f.admits_of_compile (hrow f)
    exact ⟨hadmits, problem?_eq_none_iff.mpr hadmits, _, compile_of_columns hrow, rfl⟩
  · have houtcome := compile_outcome fun f : Field =>
      Column.compile_textual f.span_bounds ((splitExpression expression).get f)
    cases hs : compile expression with
    | ok s => exact Or.inl ⟨s, rfl, houtcome.of_eq_ok hs⟩
    | error fault =>
      obtain ⟨longest, hfault⟩ := houtcome.of_eq_error hs
      cases fault with
      | parse cause => exact Or.inr (Or.inl ⟨cause, rfl⟩)
      | digitLimit count => exact Or.inr (Or.inr ⟨count, hfault.1, rfl⟩)
      | _ => exact hfault.elim

theorem compile_sundays_of_spring :
    ∃ s, compile "0 */20 9-17/4 * mar-may 7".toList = .ok s ∧
      s.row = ⟨[0], [19, 39, 59], [12, 16], Stride.indices 1 31, [3, 4, 5], [0]⟩ := by
  have hcolumns : ∀ f : Field, f.column.compile
      ((splitExpression "0 */20 9-17/4 * mar-may 7".toList).get f) =
        .ok (Row.get ⟨[0], [19, 39, 59], [12, 16], Stride.indices 1 31, [3, 4, 5], [0]⟩ f) := by
    intro f
    cases f <;> rfl
  exact ((compile_admitted_or_refused _).1 _ hcolumns).2.2

end Schedule
end Crontab
