import Crontab.Proofs.Field.Merging
import Crontab.Proofs.Field.Resolving
import Crontab.Schedule.Basic

/-! # What a column compiles to

Compiled values ascend for every text, and a field admits what its own column
compiles to. Everything else that compiling may end in is a fault of the text or
a run of digits beyond the limit.
-/
namespace Crontab
variable {longest : Nat} {atom : Text} {atoms : List Text}

theorem sortNumber_outcome (h : atom.length ≤ longest) :
    Outcome (Fault.IsTextual longest) (fun _ => True) (sortNumber atom) := by
  have hdigits := Nat.le_trans (List.length_filter_le Text.isDigit atom) h
  simp only [sortNumber]
  split
  · trivial
  · exact (readNumber_outcome hdigits).bind fun _ _ => trivial

theorem sortAtoms_outcome (h : ∀ a ∈ atoms, a.length ≤ longest) :
    Outcome (Fault.IsTextual longest) (fun sorted => ∀ a ∈ sorted, a ∈ atoms) (sortAtoms atoms) := by
  refine (Outcome.mapM fun a ha => sortNumber_outcome (h a ha)).bind fun numbers _ => ?_
  intro a ha
  obtain ⟨⟨n, b⟩, hb, rfl⟩ := List.mem_map.mp ha
  exact (List.of_mem_zip (List.mem_mergeSort.mp hb)).2

namespace Column
variable {column : Column} {raw text : Text} {values : List Int}

theorem replaceNames_outcome (label : String) (table : AliasTable) (pieces : List Alias.Piece) :
    Outcome (Fault.IsTextual longest) (fun _ => True) (replaceNames label table pieces) := by
  induction pieces with
  | nil => trivial
  | cons piece rest ih =>
    cases piece with
    | other c => exact ih.bind fun _ _ => trivial
    | name letters =>
      simp only [replaceNames]
      split
      · exact ih.bind fun _ _ => trivial
      · trivial

theorem substitute_outcome (column : Column) (raw : Text) :
    Outcome (Fault.IsTextual longest) (fun _ => True) (column.substitute raw) := by
  unfold substitute
  split
  · trivial
  · exact replaceNames_outcome _ _ _

theorem atoms_outcome (hspan : column.bounds.span = .ok column.bounds.text)
    (h : (writeStars column.bounds.text text).length ≤ longest) :
    Outcome (Fault.IsTextual longest)
      (fun atoms => ∀ a ∈ atoms, a.length ≤ (writeStars column.bounds.text text).length)
      (column.atoms text) := by
  have hpieces : ∀ a ∈ Text.pieces ',' (writeStars column.bounds.text text),
      a.length ≤ (writeStars column.bounds.text text).length :=
    fun a ha => (Text.sublist_of_mem_pieces ha).length_le
  rw [atoms, expandWildcard_eq_ok_iff.mpr ⟨hspan, rfl⟩]
  show Outcome _ _ (ite _ _ _)
  split
  · refine (sortAtoms_outcome fun a ha => Nat.le_trans (hpieces a ha) h).imp (fun _ => id) ?_
    exact fun sorted hsorted a ha => hpieces a (hsorted a ha)
  · exact hpieces

theorem collect_outcome (collected : List Int)
    (h : ∀ a ∈ atoms, a.length + column.bounds.text.length ≤ longest) :
    Outcome (Fault.IsTextual longest) (fun _ => True) (column.collect collected atoms) := by
  induction atoms generalizing collected with
  | nil => trivial
  | cons a rest ih =>
    refine (resolve_outcome (h a List.mem_cons_self)).bind fun resolved _ => ?_
    refine (merge_outcome column collected resolved longest).bind fun merged _ => ?_
    exact ih merged fun b hb => h b (List.mem_cons_of_mem a hb)

/-- If the bounds can be written, compiling ends in values, in a fault of the text, or at a run of
digits that is longer than the limit and not longer than the text with its stars and open ends
written out. -/
theorem compile_outcome (hspan : column.bounds.span = .ok column.bounds.text)
    (h : ∀ text, column.substitute raw = .ok text →
      (writeStars column.bounds.text text).length + column.bounds.text.length ≤ longest) :
    Outcome (Fault.IsTextual longest) (fun _ => True) (column.compile raw) := by
  unfold compile
  cases hraw : column.substitute raw with
  | error fault => exact (column.substitute_outcome raw).of_eq_error hraw
  | ok text =>
    have hlong := h text hraw
    show Outcome _ _ (ite _ _ _)
    split
    · trivial
    refine (atoms_outcome hspan (by omega)).bind fun atoms hatoms => ?_
    refine collect_outcome [] fun a ha => ?_
    have := hatoms a ha
    omega

theorem compile_textual (hspan : column.bounds.span = .ok column.bounds.text) (raw : Text) :
    Outcome (fun fault => ∃ longest, fault.IsTextual longest) (fun _ => True)
      (column.compile raw) := by
  have hbound : ∃ longest, ∀ text, column.substitute raw = .ok text →
      (writeStars column.bounds.text text).length + column.bounds.text.length ≤ longest := by
    cases column.substitute raw with
    | error fault => exact ⟨0, nofun⟩
    | ok text => exact ⟨_, fun _ h => by cases h; exact Nat.le_refl _⟩
  obtain ⟨longest, hlongest⟩ := hbound
  exact (compile_outcome hspan hlongest).imp (fun _ h => ⟨longest, h⟩) fun _ => id

/-- Once a text is rewritten and cut, all that is left is to collect its atoms. -/
theorem compile_eq_collect (htext : column.substitute raw = .ok text)
    (hfine : text ≠ [] ∧ ∀ c ∈ text, isColumnCharacter c) (hatoms : column.atoms text = .ok atoms) :
    column.compile raw = column.collect [] atoms := by
  have hif : ¬ (text.isEmpty || !text.all isColumnCharacter) = true := by
    simpa [List.isEmpty_eq_false_iff] using hfine
  simp only [compile, htext, bind, Except.bind, if_neg hif, hatoms]

/-- Bounds that cannot be written are a fault of every text in order, with stars or without. -/
theorem compile_eq_error_of_span {fault : Fault} (htext : column.substitute raw = .ok text)
    (hfine : text ≠ [] ∧ ∀ c ∈ text, isColumnCharacter c)
    (hspan : column.bounds.span = .error fault) : column.compile raw = .error fault := by
  have hif : ¬ (text.isEmpty || !text.all isColumnCharacter) = true := by
    simpa [List.isEmpty_eq_false_iff] using hfine
  simp only [compile, htext, bind, Except.bind, if_neg hif, atoms, expandWildcard, hspan]

/-- Compiled values are the records of all values that the atoms stand for. -/
theorem compile_eq_ok_iff : column.compile raw = .ok values ↔
    ∃ text, column.substitute raw = .ok text ∧ (text ≠ [] ∧ ∀ c ∈ text, isColumnCharacter c) ∧
      ∃ atoms, column.atoms text = .ok atoms ∧ ∃ items, column.Reads atoms items ∧
        values = records (-1) (items.flatMap (Resolved.values column)) := by
  simp only [compile, bind_eq_ok_iff]
  refine exists_congr fun text => and_congr_right fun _ => ?_
  by_cases h : text ≠ [] ∧ ∀ c ∈ text, isColumnCharacter c
  · have hif : ¬ (text.isEmpty || !text.all isColumnCharacter) = true := by
      simpa [List.isEmpty_eq_false_iff] using h
    rw [if_neg hif, bind_eq_ok_iff, and_iff_right h]
    exact exists_congr fun atoms => and_congr_right fun _ => collect_eq_ok_iff
  · have hif : (text.isEmpty || !text.all isColumnCharacter) = true := by
      by_cases hempty : text = []
      · rw [hempty]
        rfl
      · have hstray : text.all isColumnCharacter = false := by
          simpa [hempty] using h
        rw [hstray, Bool.not_false, Bool.or_true]
    rw [if_pos hif]
    exact ⟨nofun, fun hvalues => absurd hvalues.1 h⟩

/-- Nothing compiles where the bounds cannot be written. -/
theorem span_of_compile (h : column.compile raw = .ok values) :
    column.bounds.span = .ok column.bounds.text := by
  obtain ⟨text, -, -, atoms, hatoms, -⟩ := compile_eq_ok_iff.mp h
  obtain ⟨expanded, hexpanded, -⟩ := bind_eq_ok_iff.mp hatoms
  exact (expandWildcard_eq_ok_iff.mp hexpanded).1

/-- What the atoms of a text stand for, in the order in which they are merged. -/
def StandsFor (column : Column) (raw : Text) (items : List Resolved) : Prop :=
  ∃ text, column.substitute raw = .ok text ∧ (text ≠ [] ∧ ∀ c ∈ text, isColumnCharacter c) ∧
    ∃ atoms, column.atoms text = .ok atoms ∧ atoms.map column.resolve = items.map .ok

theorem StandsFor.unique {items others : List Resolved} (h : column.StandsFor raw items)
    (h' : column.StandsFor raw others) : items = others := by
  obtain ⟨text, htext, -, atoms, hatoms, hitems⟩ := h
  obtain ⟨text', htext', -, atoms', hatoms', hothers⟩ := h'
  rw [htext] at htext'
  cases htext'
  rw [hatoms] at hatoms'
  cases hatoms'
  exact (List.map_inj_right fun _ _ => Except.ok.inj).mp (hitems.symm.trans hothers)

theorem StandsFor.compile_eq_ok_iff {items : List Resolved} (h : column.StandsFor raw items) :
    column.compile raw = .ok values ↔
      (∀ item ∈ items, ∀ v ∈ item.written, column.bounds.Contains v) ∧
        values = records (-1) (items.flatMap (Resolved.values column)) := by
  rw [Column.compile_eq_ok_iff]
  constructor
  · rintro ⟨text, htext, hfine, atoms, hatoms, others, ⟨hothers, hwithin⟩, hvalues⟩
    obtain rfl := h.unique ⟨text, htext, hfine, atoms, hatoms, hothers⟩
    exact ⟨hwithin, hvalues⟩
  · rintro ⟨hwithin, hvalues⟩
    obtain ⟨text, htext, hfine, atoms, hatoms, hitems⟩ := h
    exact ⟨text, htext, hfine, atoms, hatoms, items, ⟨hitems, hwithin⟩, hvalues⟩

theorem pairwise_of_compile (h : column.compile raw = .ok values) : values.Pairwise (· < ·) := by
  obtain ⟨_, -, -, _, -, items, -, rfl⟩ := compile_eq_ok_iff.mp h
  exact pairwise_records _ _

end Column

namespace Field
variable {f : Field} {raw : Text} {values : List Int}

/-- Folding the week does not lead out of the bounds. -/
theorem contains_of_mem_values {item : Resolved} (h : ∀ v ∈ item.written, f.bounds.Contains v) :
    ∀ v ∈ item.values f.column, f.bounds.Contains v := by
  cases item with
  | run values => exact h
  | single value =>
    intro v hv
    rw [Resolved.values, List.mem_singleton] at hv
    cases f with
    | dayOfWeek =>
      simp only [column, within, decide_true, if_true] at hv
      simp only [bounds, Bounds.Contains]
      omega
    | _ => exact hv ▸ h value (List.mem_singleton.mpr rfl)

theorem admits_of_compile (h : f.column.compile raw = .ok values) : f.Admits values := by
  refine ⟨Column.pairwise_of_compile h, fun v hv => ?_⟩
  obtain ⟨_, -, -, _, -, items, ⟨-, hwithin⟩, rfl⟩ := Column.compile_eq_ok_iff.mp h
  obtain ⟨item, hitem, hv⟩ := List.mem_flatMap.mp ((records_sublist _ _).subset hv)
  exact contains_of_mem_values (hwithin item hitem) v hv

end Field
end Crontab
