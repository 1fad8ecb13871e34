import Crontab.Proofs.Field.Rewriting
import Crontab.Proofs.Schedule.Splitting

/-! # Valid expressions

Replacing names makes no column longer, and a star is written out with four
characters at most. So words of up to a thousand characters never give a run of
digits beyond the limit, and an expression of such words is either compiled or
refused for its text.
-/
namespace Crontab
variable {raw text : Text}

/-- A replacement of single characters lengthens a text by no more than its greatest width. -/
theorem Text.length_flatMap_le {f : Char → Text} {width : Nat} (h : ∀ c, (f c).length ≤ width)
    (t : Text) : (t.flatMap f).length ≤ width * t.length := by
  induction t with
  | nil => exact Nat.zero_le _
  | cons c rest ih =>
    rw [List.flatMap_cons, List.length_append, List.length_cons, Nat.mul_succ, Nat.add_comm]
    exact Nat.add_le_add ih (h c)

section Lengths
variable {label : String} {table : AliasTable}

/-- Names of three letters or more for numbers of up to two digits. -/
def AliasTable.IsShortening (table : AliasTable) : Prop :=
  ∀ entry ∈ table, (Text.ofNat entry.2).length ≤ 2 ∧ 3 ≤ entry.1.length

theorem Field.isShortening_aliases (f : Field) : ∀ table ∈ f.aliases?, table.IsShortening := by
  unfold AliasTable.IsShortening
  cases f <;> decide

theorem Alias.length_lower_le (c : Char) : (Alias.lower c).length ≤ 2 := by
  unfold Alias.lower
  split
  · exact Nat.le_succ 1
  · split
    · exact Nat.le_refl 2
    · split <;> exact Nat.le_succ 1

theorem Alias.Piece.length_replaced_le (htable : table.IsShortening) {piece : Alias.Piece}
    (h : piece.replaced? table = some text) : text.length ≤ piece.text.length := by
  cases piece with
  | other c =>
    cases h
    exact Nat.le_refl 1
  | name letters =>
    obtain ⟨n, hn, rfl⟩ := Option.map_eq_some_iff.mp h
    obtain ⟨before, after, rfl, -⟩ := List.lookup_eq_some_iff.mp hn
    obtain ⟨hdigits, hletters⟩ := htable _ (List.mem_append_right before List.mem_cons_self)
    have hlower := Text.length_flatMap_le Alias.length_lower_le letters
    dsimp only [Alias.Piece.text] at hdigits hletters ⊢
    omega

namespace Column
variable {column : Column}

theorem length_replaceNames_le (htable : table.IsShortening) {pieces : List Alias.Piece}
    (h : replaceNames label table pieces = .ok text) :
    text.length ≤ (pieces.flatMap Alias.Piece.text).length := by
  induction pieces generalizing text with
  | nil =>
    cases h
    exact Nat.le_refl 0
  | cons piece rest ih =>
    obtain ⟨front, back, hfront, hback, rfl⟩ := replaceNames_cons_eq_ok_iff.mp h
    rw [List.flatMap_cons, List.length_append, List.length_append]
    exact Nat.add_le_add (Alias.Piece.length_replaced_le htable hfront) (ih hback)

theorem length_substitute_le (htable : ∀ table ∈ column.aliases?, table.IsShortening)
    (h : column.substitute raw = .ok text) : text.length ≤ raw.length := by
  cases haliases : column.aliases? with
  | none =>
    simp only [substitute, haliases] at h
    cases h
    exact Nat.le_refl _
  | some table =>
    simp only [substitute, haliases] at h
    have hraw : (Alias.cut raw).flatMap Alias.Piece.text = raw := Alias.flatMap_cutFrom [] raw
    rw [← hraw]
    exact length_replaceNames_le (htable table haliases) h

end Column

theorem length_writeStars_le {bounds : Bounds} {width : Nat} (hone : 1 ≤ width)
    (hspan : bounds.text.length ≤ width) (t : Text) :
    (writeStars bounds.text t).length ≤ width * t.length := by
  refine Text.length_flatMap_le (fun c => ?_) t
  split
  · exact hspan
  · exact hone

end Lengths

/-- The length up to which a word is read without looking at the limit for digits. -/
def safeLength : Nat := 1000

namespace Field

theorem length_text_le (f : Field) : f.bounds.text.length ≤ 4 := by
  cases f <;> decide

/-- A short word compiles or is refused for its text. -/
theorem compile_outcome_of_short (f : Field) (h : raw.length ≤ safeLength) :
    Outcome (fun fault => ∃ cause, fault = .parse cause) (fun _ => True) (f.column.compile raw) := by
  have hlength : ∀ text, f.column.substitute raw = .ok text →
      (writeStars f.bounds.text text).length + f.bounds.text.length ≤ 4 * safeLength + 4 := by
    intro text htext
    have hspan := f.length_text_le
    have hexpanded := length_writeStars_le (by decide) hspan text
    have htext := Column.length_substitute_le f.isShortening_aliases htext
    omega
  refine (Column.compile_outcome f.span_bounds hlength).imp (fun fault hfault => ?_) fun _ => id
  cases fault with
  | parse cause => exact ⟨cause, rfl⟩
  | digitLimit count =>
    have hlimit : 4 * safeLength + 4 < Text.digitLimit := by decide
    exact absurd (Nat.lt_of_lt_of_le hfault.1 hfault.2) (Nat.not_lt_of_lt hlimit)
  | _ => exact hfault.elim

end Field

theorem length_get_splitExpression_le {expression : Text}
    (h : ∀ word ∈ Text.words expression, word.length ≤ safeLength) (f : Field) :
    ((splitExpression expression).get f).length ≤ safeLength := by
  have hmem : (splitExpression expression).get f ∈ (splitExpression expression).toList :=
    List.mem_map_of_mem (Field.mem_all f)
  rcases mem_toList_splitExpression hmem with hstar | hword | ⟨entry, hentry, hword⟩
  · rw [hstar]
    decide
  · exact h _ hword
  · have hshort : ∀ entry ∈ predefined, ∀ word ∈ Text.words entry.2, word.length ≤ safeLength := by
      decide
    exact hshort entry hentry _ hword

namespace Schedule

theorem compile_outcome_of_short {expression : Text}
    (h : ∀ word ∈ Text.words expression, word.length ≤ safeLength) :
    Outcome (fun fault => ∃ cause, fault = .parse cause) (fun _ => True) (compile expression) :=
  (compile_outcome fun f => f.compile_outcome_of_short (length_get_splitExpression_le h f)).imp
    (fun _ => id) fun _ _ => trivial

/-- Values that are no text are refused as such. -/
theorem compileValue_outcome_of_short {value : Value}
    (h : ∀ expression, value = .text expression →
      ∀ word ∈ Text.words expression, word.length ≤ safeLength) :
    Outcome (fun fault => ∃ cause, fault = .parse cause) (fun _ => True) (compileValue value) := by
  cases value with
  | text expression => exact compile_outcome_of_short (h expression rfl)
  | _ => exact ⟨_, rfl⟩

end Schedule

/-- The question whether a value is a valid expression always has an answer, unless the value is a
text with a word of more than a thousand characters: yes if it compiles, no if it is refused. -/
theorem isValidExpression_answers {value : Value}
    (h : ∀ expression, value = .text expression →
      ∀ word ∈ Text.words expression, word.length ≤ 1000) :
    (∃ valid, isValidExpression value = .ok valid) ∧
      (isValidExpression value = .ok true ↔ ∃ s, Schedule.compileValue value = .ok s) ∧
      (isValidExpression value = .ok false ↔
        ∃ cause, Schedule.compileValue value = .error (.parse cause)) := by
  have houtcome := Schedule.compileValue_outcome_of_short h
  unfold isValidExpression
  cases hcompile : Schedule.compileValue value with
  | ok s => exact ⟨⟨true, rfl⟩, ⟨fun _ => ⟨s, rfl⟩, fun _ => rfl⟩, nofun, nofun⟩
  | error fault =>
    obtain ⟨cause, rfl⟩ := houtcome.of_eq_error hcompile
    exact ⟨⟨false, rfl⟩, ⟨nofun, nofun⟩, ⟨fun _ => ⟨cause, rfl⟩, fun _ => rfl⟩⟩

theorem isValidExpression_answers_thousandStars :
    (∃ valid, isValidExpression (.text (List.replicate 1000 '*')) = .ok valid) ∧
      isValidExpression (.text Schedule.officeHours.source) = .ok true ∧
      isValidExpression (.text "0 60 9-17 * * mon-fri".toList) = .ok false ∧
      isValidExpression (.list [.null]) = .ok false := by
  have hstars : Text.IsWord (List.replicate 1000 '*') :=
    ⟨List.replicate_succ_ne_nil, fun c hc => List.eq_of_mem_replicate hc ▸ rfl⟩
  refine ⟨(isValidExpression_answers fun t ht word hword => ?_).1,
    (isValidExpression_answers fun t ht => ?_).2.1.mpr ⟨_, Schedule.compile_officeHours⟩,
    (isValidExpression_answers fun t ht => ?_).2.2.mpr ⟨_, rfl⟩,
    (isValidExpression_answers fun t ht => ?_).2.2.mpr ⟨_, rfl⟩⟩
  · cases ht
    rw [Text.words_of_isWord hstars, List.mem_singleton] at hword
    rw [hword, List.length_replicate]
  · cases ht
    decide
  · cases ht
    decide
  · cases ht

end Crontab
