import Crontab.Field.Compile
import Crontab.Proofs.Outcome
import Crontab.Proofs.Text.Script

/-! # Columns in another script

Every stage of a column commutes with making its digits ordinary: names have no
digits, cuts are made at characters that are none, and numbers and their lengths
stay. So the column compiles to the same values, or it is refused with the same
fault, whose texts are then in ordinary digits.
-/
namespace Crontab
open Text (ordinary)

/-- The cause for a text whose digits are made ordinary. -/
def ParseError.ordinary : ParseError → ParseError
  | .notText kind => .notText kind
  | .unknownAlias label name => .unknownAlias label name
  | .strayCharacter label raw replaced =>
    .strayCharacter label (raw.map Text.ordinary) (replaced.map Text.ordinary)
  | .notANumber label text => .notANumber label (text.map Text.ordinary)
  | .badStep label text => .badStep label (text.map Text.ordinary)
  | .badRange label text => .badRange label (text.map Text.ordinary)
  | .rangeOutside label text start stop bounds =>
    .rangeOutside label (text.map Text.ordinary) start stop bounds
  | .valueOutside label value bounds => .valueOutside label value bounds
  | .scheduled name cause => .scheduled name cause.ordinary

def Fault.ordinary : Fault → Fault
  | .parse cause => .parse cause.ordinary
  | fault => fault

section Numbers

theorem readNumber_map_ordinary (digits : Text) :
    readNumber (digits.map ordinary) = (readNumber digits).mapError Fault.ordinary := by
  unfold readNumber
  rw [List.length_map, Text.value_map_ordinary, mapError_ite]
  rfl

theorem sortNumber_map_ordinary (atom : Text) :
    sortNumber (atom.map ordinary) = (sortNumber atom).mapError Fault.ordinary := by
  simp only [sortNumber, Text.filter_isDigit_map_ordinary, List.isEmpty_map,
    readNumber_map_ordinary, mapError_ite, mapError_bind, mapError_pure]

theorem sortNumbers_map_ordinary (atoms : List Text) :
    (atoms.map (List.map ordinary)).mapM sortNumber =
      (atoms.mapM sortNumber).mapError Fault.ordinary := by
  induction atoms with
  | nil => rfl
  | cons atom rest ih =>
    simp only [List.map_cons, List.mapM_cons, sortNumber_map_ordinary, ih, mapError_bind,
      mapError_pure]

/-- The order depends on the numbers only. -/
theorem sortAtoms_map_ordinary (atoms : List Text) :
    sortAtoms (atoms.map (List.map ordinary)) =
      (List.map (List.map ordinary) <$> sortAtoms atoms).mapError Fault.ordinary := by
  have hsort : ∀ numbers : List Int,
      ((numbers.zip (atoms.map (List.map ordinary))).mergeSort fun a b => a.1 ≤ b.1).map (·.2) =
        (((numbers.zip atoms).mergeSort fun a b => a.1 ≤ b.1).map (·.2)).map
          (List.map ordinary) := by
    intro numbers
    rw [List.zip_map_right, ← List.map_mergeSort (r := fun a b : Int × Text => a.1 ≤ b.1)]
    · simp
    · intro a _ b _
      rfl
  simp only [sortAtoms, sortNumbers_map_ordinary, mapError_bind, map_bind, map_pure, hsort,
    mapError_pure]

theorem Stride.mapError_walk (step counter : Int) (indices : List Int) :
    (walk step counter indices).mapError Fault.ordinary = walk step counter indices := by
  induction indices generalizing counter with
  | nil => rfl
  | cons index rest ih =>
    by_cases hstep : step = 0
    · rw [hstep, walk_zero]
      rfl
    by_cases h : counter % step = 0
    · rw [walk_taken hstep h, mapError_map, ih]
    · rw [walk_passed hstep h, ih]

theorem Stride.mapError_range (start stop step : Int) :
    (range start stop step).mapError Fault.ordinary = range start stop step :=
  mapError_walk step 1 (indices start stop)

end Numbers

section Names

/-- The piece with its digit made ordinary. Names have no digits. -/
def Alias.Piece.ordinary : Alias.Piece → Alias.Piece
  | .name letters => .name letters
  | .other c => .other (Text.ordinary c)

namespace Alias

theorem map_ordinary_lastName (letters : Text) :
    (lastName letters).map Piece.ordinary = lastName letters := by
  cases letters <;> rfl

theorem cutFrom_map_ordinary (pending t : Text) :
    cutFrom pending (t.map Text.ordinary) = (cutFrom pending t).map Piece.ordinary := by
  induction t generalizing pending with
  | nil => exact (map_ordinary_lastName pending).symm
  | cons c rest ih =>
    cases hc : isLetter c with
    | true =>
      simp only [List.map_cons, cutFrom, Text.ordinary_of_isLetter hc, hc, if_true, ih,
        apply_ite (List.map Piece.ordinary), Piece.ordinary]
    | false =>
      simp only [List.map_cons, cutFrom, Text.isLetter_ordinary, hc, Bool.false_eq_true, if_false,
        ih, List.map_append, map_ordinary_lastName, Piece.ordinary]

end Alias

namespace Column

theorem replaceNames_map_ordinary (label : String) (table : AliasTable)
    (pieces : List Alias.Piece) :
    replaceNames label table (pieces.map Alias.Piece.ordinary) =
      (List.map ordinary <$> replaceNames label table pieces).mapError Fault.ordinary := by
  induction pieces with
  | nil => rfl
  | cons piece rest ih =>
    cases piece with
    | other c =>
      simp only [List.map_cons, Alias.Piece.ordinary, replaceNames, ih, mapError_map, mapError_bind,
        map_bind, bind_map_left, map_pure, mapError_pure]
    | name letters =>
      simp only [List.map_cons, Alias.Piece.ordinary, replaceNames]
      split
      · simp only [ih, mapError_map, mapError_bind, map_bind, bind_map_left, map_pure,
          mapError_pure, List.map_append, Text.map_ordinary_ofNat]
      · rfl

theorem substitute_map_ordinary (column : Column) (raw : Text) :
    column.substitute (raw.map ordinary) =
      (List.map ordinary <$> column.substitute raw).mapError Fault.ordinary := by
  unfold substitute
  split
  · rfl
  · rw [Alias.cut, Alias.cutFrom_map_ordinary, replaceNames_map_ordinary]
    rfl

end Column
end Names

namespace Column
variable (column : Column)

section Atoms

theorem step_map_ordinary (text : Text) :
    column.step (text.map ordinary) = (column.step text).mapError Fault.ordinary := by
  simp only [step, Text.isNumeral_map_ordinary, readNumber_map_ordinary, mapError_ite,
    mapError_bind, mapError_throw, mapError_pure, Fault.ordinary, ParseError.ordinary]

theorem scalar_of_unsigned {text : Text} (h : text.head? ≠ some '-') :
    column.scalar text =
      if Text.isNumeral text then (fun n : Nat => (n : Int)) <$> readNumber text
      else throw (.parse (.notANumber column.label text)) := by
  unfold scalar
  split
  next negative digits heq =>
  split at heq
  · exact absurd rfl h
  · cases heq
    rfl

theorem scalar_map_ordinary (text : Text) :
    column.scalar (text.map ordinary) = (column.scalar text).mapError Fault.ordinary := by
  by_cases h : text.head? = some '-'
  · obtain ⟨digits, rfl⟩ := List.head?_eq_some_iff.mp h
    simp only [scalar, List.map_cons, Text.ordinary_minus, Text.isNumeral_map_ordinary,
      readNumber_map_ordinary, mapError_ite, mapError_bind, mapError_throw, mapError_pure,
      Fault.ordinary, ParseError.ordinary]
  · have hord : (text.map ordinary).head? ≠ some '-' := by
      rw [List.head?_map]
      intro hminus
      obtain ⟨c, hc, hc'⟩ := Option.map_eq_some_iff.mp hminus
      rw [(Text.ordinary_eq_iff (by decide)).mp hc'] at hc
      exact h hc
    rw [column.scalar_of_unsigned h, column.scalar_of_unsigned hord]
    simp only [Text.isNumeral_map_ordinary, readNumber_map_ordinary, mapError_ite, mapError_map,
      mapError_throw, Fault.ordinary, ParseError.ordinary]

theorem resolveEnds_map_ordinary (text low high stepText : Text) :
    column.resolveEnds (text.map ordinary) (low.map ordinary) (high.map ordinary)
        (stepText.map ordinary) =
      (column.resolveEnds text low high stepText).mapError Fault.ordinary := by
  simp only [resolveEnds, Text.isNumeral_map_ordinary, readNumber_map_ordinary, step_map_ordinary,
    mapError_ite, mapError_bind, mapError_throw, Stride.mapError_range, Fault.ordinary,
    ParseError.ordinary]

theorem resolveRange_map_ordinary (text stepText : Text) :
    column.resolveRange (text.map ordinary) (stepText.map ordinary) =
      (column.resolveRange text stepText).mapError Fault.ordinary := by
  have hminus : Text.isDigit '-' = false := by decide
  unfold resolveRange
  rw [Text.cut?_map_ordinary hminus]
  cases Text.cut? '-' text with
  | none => simp only [Option.map_none, scalar_map_ordinary, mapError_map]
  | some ends =>
    simp only [Option.map_some, List.isEmpty_map, Text.takeWhile_map_ordinary hminus,
      scalar_map_ordinary, resolveEnds_map_ordinary, mapError_ite, mapError_map]

/-- The end that is written for an open range has ordinary digits. -/
theorem steppedBase_map_ordinary (base : Text) :
    column.steppedBase (base.map ordinary) = (column.steppedBase base).map ordinary := by
  unfold steppedBase
  rw [Text.contains_map_ordinary (by decide), List.isEmpty_map, apply_ite (List.map ordinary)]
  simp only [List.map_append, List.map_cons, Text.ordinary_minus, Text.map_ordinary_ofInt]

theorem resolve_map_ordinary (atom : Text) :
    column.resolve (atom.map ordinary) = (column.resolve atom).mapError Fault.ordinary := by
  have hslash : Text.isDigit '/' = false := by decide
  unfold resolve
  rw [Text.cut?_map_ordinary hslash]
  cases Text.cut? '/' atom with
  | none =>
    have hone : ['1'].map ordinary = ['1'] := by decide
    have hrange := column.resolveRange_map_ordinary atom ['1']
    rw [hone] at hrange
    exact hrange
  | some ends =>
    have hlast : ((Text.pieces '/' ends.2).map (List.map ordinary)).getLastD [] =
        ((Text.pieces '/' ends.2).getLastD []).map ordinary := by
      change ((Text.pieces '/' ends.2).map (List.map ordinary)).getLastD (List.map ordinary []) = _
      exact List.getLastD_map
    simp only [Option.map_some, Text.pieces_map_ordinary hslash, hlast, steppedBase_map_ordinary,
      resolveRange_map_ordinary]

end Atoms

section Lists

theorem writeStars_map_ordinary (bounds : Bounds) (text : Text) :
    writeStars bounds.text (text.map ordinary) = (writeStars bounds.text text).map ordinary := by
  have hspan : bounds.text.map ordinary = bounds.text := by
    simp only [Bounds.text, List.map_append, List.map_cons, Text.map_ordinary_ofInt,
      Text.ordinary_minus]
  rw [writeStars, writeStars, List.flatMap_map, List.map_flatMap]
  congr 1
  funext c
  simp only [Text.ordinary_eq_iff (by decide : Text.isDigit '*' = false),
    apply_ite (List.map ordinary), hspan, List.map_cons, List.map_nil]

theorem expandWildcard_map_ordinary (bounds : Bounds) (text : Text) :
    expandWildcard bounds (text.map ordinary) =
      (List.map ordinary <$> expandWildcard bounds text).mapError Fault.ordinary := by
  rcases bounds.span_eq with hspan | hspan
  · rw [expandWildcard, expandWildcard, hspan]
    exact congrArg Except.ok (writeStars_map_ordinary bounds text)
  · rw [expandWildcard, expandWildcard, hspan]
    rfl

theorem atoms_map_ordinary (text : Text) :
    column.atoms (text.map ordinary) =
      (List.map (List.map ordinary) <$> column.atoms text).mapError Fault.ordinary := by
  simp only [atoms, expandWildcard_map_ordinary, mapError_map, mapError_bind, map_bind,
    bind_map_left, Text.pieces_map_ordinary (by decide : Text.isDigit ',' = false),
    List.length_map, sortAtoms_map_ordinary, mapError_ite, mapError_pure]
  congr 1
  funext expanded
  split <;> rfl

/-- Merging looks at numbers only. -/
theorem mapError_merge (collected : List Int) (resolved : Resolved) :
    (column.merge collected resolved).mapError Fault.ordinary =
      column.merge collected resolved := by
  unfold merge
  split <;> rfl

theorem collect_map_ordinary (collected : List Int) (atoms : List Text) :
    column.collect collected (atoms.map (List.map ordinary)) =
      (column.collect collected atoms).mapError Fault.ordinary := by
  induction atoms generalizing collected with
  | nil => rfl
  | cons atom rest ih =>
    simp only [List.map_cons, collect, resolve_map_ordinary, ih, mapError_bind, mapError_merge]

/-- A column has the same values in every script, and it is refused with the same fault. -/
theorem compile_map_ordinary (raw : Text) :
    column.compile (raw.map ordinary) = (column.compile raw).mapError Fault.ordinary := by
  have hcolumn : isColumnCharacter ∘ ordinary = isColumnCharacter := by
    funext c
    exact Text.isColumnCharacter_ordinary c
  simp only [compile, substitute_map_ordinary, atoms_map_ordinary, collect_map_ordinary,
    bind_map_left, List.isEmpty_map, List.all_map, hcolumn, mapError_map, mapError_bind,
    mapError_ite, mapError_throw, Fault.ordinary, ParseError.ordinary]

end Lists

end Column
end Crontab
