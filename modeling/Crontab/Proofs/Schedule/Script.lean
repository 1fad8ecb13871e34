import Mathlib.Data.List.GetD
import Crontab.Proofs.Field.Script
import Crontab.Proofs.Schedule.Splitting

/-! # Expressions in another script

Making the digits of an expression ordinary makes those of its columns ordinary,
and the predefined names have none. An expression fails by its first column that
fails, so the script of its digits changes neither the values nor where it fails.
-/
namespace Crontab
open Text (ordinary SameDigit)
variable {expression other : Text}

namespace Row

theorem get_ofWords_map {g : Text → Text} (hg : g defaultWord = defaultWord) (given : List Text)
    (f : Field) : (ofWords (given.map g)).get f = g ((ofWords given).get f) := by
  have hsix : List.replicate (6 - (given.map g).length) defaultWord ++ (given.map g).take 6 =
      (List.replicate (6 - given.length) defaultWord ++ given.take 6).map g := by
    rw [List.length_map, List.map_append, List.map_replicate, hg, List.map_take]
  have hword : ∀ words : List Text,
      (words.map g).getD (Field.all.idxOf f) defaultWord =
        g (words.getD (Field.all.idxOf f) defaultWord) := by
    intro words
    have hget := List.getD_map (f := g) (l := words) (n := Field.all.idxOf f) (d := defaultWord)
    rwa [hg] at hget
  rw [ofWords, ofWords, get_ofFn, get_ofFn, hsix, hword]

end Row

theorem lookup_map_ordinary {table : List (Text × Text)}
    (h : ∀ entry ∈ table, entry.1.any Text.isDigit = false) (t : Text) :
    table.lookup (t.map ordinary) = table.lookup t := by
  induction table with
  | nil => rfl
  | cons entry rest ih =>
    obtain ⟨hentry, hrest⟩ := List.forall_mem_cons.mp h
    have hsame : (t.map ordinary == entry.1) = (t == entry.1) := by
      rw [Bool.eq_iff_iff, beq_iff_eq, beq_iff_eq]
      apply Text.map_ordinary_eq_iff
      simpa using hentry
    rw [List.lookup_cons, List.lookup_cons, hsame, ih hrest]

/-- No predefined name has a digit, and what the names stand for has ordinary digits only. -/
theorem expanded_map_ordinary (expression : Text) :
    (predefined.lookup (expression.map ordinary)).getD (expression.map ordinary) =
      ((predefined.lookup expression).getD expression).map ordinary := by
  have hnames : ∀ entry ∈ predefined, entry.1.any Text.isDigit = false := by decide
  have htexts : ∀ entry ∈ predefined, entry.2.map ordinary = entry.2 := by decide
  rw [lookup_map_ordinary hnames]
  cases hname : predefined.lookup expression with
  | none => rfl
  | some text => exact (htexts _ (mem_predefined_of_lookup hname)).symm

theorem get_splitExpression_map_ordinary (expression : Text) (f : Field) :
    (splitExpression (expression.map ordinary)).get f =
      ((splitExpression expression).get f).map ordinary := by
  rw [splitExpression, expanded_map_ordinary, Text.words_map_ordinary]
  exact Row.get_ofWords_map (by decide) _ f

namespace Fault

/-- Two faults of one sort: if the text is to blame, then for the same reason and in the same
column. -/
inductive Alike : Fault → Fault → Prop
  | parse {cause reason : ParseError} (hkind : cause.kind = reason.kind)
    (hlabel : cause.label? = reason.label?) : Alike (.parse cause) (.parse reason)
  | same (fault : Fault) : Alike fault fault

end Fault

namespace ParseError

theorem kind_ordinary (cause : ParseError) : cause.ordinary.kind = cause.kind := by
  induction cause with
  | scheduled name cause ih => exact ih
  | _ => rfl

theorem label?_ordinary (cause : ParseError) : cause.ordinary.label? = cause.label? := by
  induction cause with
  | scheduled name cause ih => exact ih
  | _ => rfl

end ParseError

namespace Fault

theorem parse_or_ordinary_eq_self (fault : Fault) :
    (∃ cause, fault = .parse cause) ∨ fault.ordinary = fault ∧ ∀ cause, fault ≠ .parse cause := by
  cases fault with
  | parse cause => exact .inl ⟨cause, rfl⟩
  | _ => exact .inr ⟨rfl, nofun⟩

theorem Alike.of_ordinary {fault reason : Fault} (h : fault.ordinary = reason.ordinary) :
    fault.Alike reason := by
  rcases fault.parse_or_ordinary_eq_self with ⟨cause, rfl⟩ | ⟨hfault, hother⟩
  · rcases reason.parse_or_ordinary_eq_self with ⟨other, rfl⟩ | ⟨hreason, hother⟩
    · have hcause : cause.ordinary = other.ordinary := Fault.parse.inj h
      apply Alike.parse
      · rw [← cause.kind_ordinary, hcause, other.kind_ordinary]
      · rw [← cause.label?_ordinary, hcause, other.label?_ordinary]
    · exact absurd (hreason.symm.trans h.symm) (hother _)
  · rcases reason.parse_or_ordinary_eq_self with ⟨other, rfl⟩ | ⟨hreason, -⟩
    · exact absurd (hfault.symm.trans h) (hother _)
    · rw [← hfault, h, hreason]
      exact .same reason

end Fault

namespace Schedule

theorem columnOf_map_ordinary (expression : Text) (f : Field) :
    columnOf (expression.map ordinary) f =
      (columnOf expression f).mapError Fault.ordinary := by
  rw [columnOf, get_splitExpression_map_ordinary, Column.compile_map_ordinary]
  rfl

/-- Expressions that differ only in the scripts of their digits compile to the same row, or they
fail in the same column and alike. -/
theorem compile_of_sameDigit (h : List.Forall₂ SameDigit expression other) :
    (∃ s t, compile expression = .ok s ∧ compile other = .ok t ∧ s.row = t.row) ∨
      ∃ fault reason, compile expression = .error fault ∧ compile other = .error reason ∧
        fault.Alike reason ∧
        ∃ f, FirstFault (columnOf expression) Field.all f fault ∧
          FirstFault (columnOf other) Field.all f reason := by
  have hcolumns : ∀ f : Field, (columnOf expression f).mapError Fault.ordinary =
      (columnOf other f).mapError Fault.ordinary := by
    intro f
    rw [← columnOf_map_ordinary, ← columnOf_map_ordinary, Text.forall₂_sameDigit_iff.mp h]
  cases hs : compile expression with
  | error fault =>
    obtain ⟨f, hfault⟩ := compile_eq_error_iff.mp hs
    obtain ⟨reason, hreason, hsame⟩ := hfault.of_mapError hcolumns
    exact .inr ⟨fault, reason, rfl, compile_eq_error_iff.mpr ⟨f, hreason⟩, .of_ordinary hsame,
      f, hfault, hreason⟩
  | ok s =>
    cases ht : compile other with
    | error reason =>
      obtain ⟨f, hreason⟩ := compile_eq_error_iff.mp ht
      obtain ⟨fault, hfault, -⟩ := hreason.of_mapError fun f => (hcolumns f).symm
      cases hs.symm.trans (compile_eq_error_iff.mpr ⟨f, hfault⟩)
    | ok t =>
      refine .inl ⟨s, t, rfl, rfl, Row.ext_get fun f => ?_⟩
      have hsame := hcolumns f
      rw [columnOf_eq_ok hs, columnOf_eq_ok ht] at hsame
      exact Except.ok.inj hsame

theorem compile_of_sameDigit_devanagari :
    (∃ t, compile "० ३० ९-१७ * * mon-fri".toList = .ok t ∧ t.row = officeHours.row) ∧
      ∃ cause, compile "0 ३०-६० 9 * * *".toList = .error (.parse cause) ∧
        cause.kind = .bounds ∧ cause.label? = some "minute" := by
  constructor
  · have hdigits : List.Forall₂ SameDigit officeHours.source "० ३० ९-१७ * * mon-fri".toList :=
      Text.forall₂_sameDigit_iff.mpr (by decide)
    rcases compile_of_sameDigit hdigits with ⟨s, t, hs, ht, hrow⟩ | ⟨fault, _, hfault, -⟩
    · cases hs.symm.trans compile_officeHours
      exact ⟨t, ht, hrow.symm⟩
    · cases hfault.symm.trans compile_officeHours
  · have hdigits : List.Forall₂ SameDigit "0 30-60 9 * * *".toList "0 ३०-६० 9 * * *".toList :=
      Text.forall₂_sameDigit_iff.mpr (by decide)
    have hascii : compile "0 30-60 9 * * *".toList =
        .error (.parse (.rangeOutside "minute" "30-60".toList 30 60 ⟨0, 59⟩)) := by
      rfl
    rcases compile_of_sameDigit hdigits with ⟨s, _, hs, -⟩ | ⟨fault, _, hfault, hreason, halike, -⟩
    · cases hs.symm.trans hascii
    · cases hfault.symm.trans hascii
      cases halike with
      | parse hkind hlabel => exact ⟨_, hreason, hkind.symm, hlabel.symm⟩
      | same => exact ⟨_, hreason, rfl, rfl⟩

end Schedule
end Crontab
