import Mathlib.Data.List.TakeWhile
import Crontab.Proofs.Field.Lists
import Crontab.Proofs.Field.Stride
import Crontab.Proofs.Schedule.Coverage
import Crontab.Proofs.Text.Numeral

/-! # What a single item means

A text without names and commas is one atom, so compiling it is resolving and
merging once. From this the meaning of every documented item follows: a star, a
number, a range and a range with a step, and which fault comes first when an item
has several.
-/
namespace Crontab
open Text (Numeral)
variable {c : Char} {raw text : Text} {values : List Int}

/-- Digits and the signs of ranges and steps, but no names, stars or commas. -/
def Bare (text : Text) : Prop :=
  ∀ c ∈ text, Text.isDigit c = true ∨ c = '-' ∨ c = '/'

namespace Bare
variable {front back : Text}

theorem append (hfront : Bare front) (hback : Bare back) : Bare (front ++ back) := by
  intro c hc
  rcases List.mem_append.mp hc with hc | hc
  · exact hfront c hc
  · exact hback c hc

theorem cons (hc : Text.isDigit c = true ∨ c = '-' ∨ c = '/') (hback : Bare back) :
    Bare (c :: back) :=
  List.forall_mem_cons.mpr ⟨hc, hback⟩

theorem numeral (n : Numeral) : Bare n.text :=
  fun c hc => .inl ((Text.isNumeral_iff.mp n.digits).2 c hc)

theorem range (n : Numeral) (hback : Bare back) : Bare (n.text ++ '-' :: back) :=
  (numeral n).append (hback.cons (.inr (.inl rfl)))

theorem stepped (hfront : Bare front) (n : Numeral) : Bare (front ++ '/' :: n.text) :=
  hfront.append ((numeral n).cons (.inr (.inr rfl)))

theorem isColumnCharacter (h : Bare text) : ∀ c ∈ text, isColumnCharacter c = true := by
  intro c hc
  rcases h c hc with hdigit | rfl | rfl
  · rw [Crontab.isColumnCharacter, hdigit]
    rfl
  · rfl
  · rfl

theorem not_mem (h : Bare text) (hdigit : Text.isDigit c = false) (hdash : c ≠ '-')
    (hslash : c ≠ '/') : c ∉ text := by
  intro hc
  rcases h c hc with hc | rfl | rfl
  · rw [hdigit] at hc
    cases hc
  · exact hdash rfl
  · exact hslash rfl

end Bare

theorem bare_ofInt (n : Int) : Bare (Text.ofInt n) := by
  intro c hc
  rcases Text.eq_or_isDigit_of_mem_ofInt hc with hdash | hdigit
  · exact .inr (.inl hdash)
  · exact .inl (Text.isDigit_of_char_isDigit hdigit)

theorem slash_not_mem_ofInt (n : Int) : '/' ∉ Text.ofInt n := by
  intro h
  rcases Text.eq_or_isDigit_of_mem_ofInt h with hdash | hdigit
  · exact absurd hdash (by decide)
  · exact absurd hdigit (by decide)

theorem dash_mem_range (front back : Text) : '-' ∈ front ++ '-' :: back :=
  List.mem_append_right front List.mem_cons_self

theorem slash_not_mem_range (n : Numeral) (h : '/' ∉ text) : '/' ∉ n.text ++ '-' :: text := by
  simp only [List.mem_append, List.mem_cons, not_or]
  exact ⟨n.not_mem rfl, by decide, h⟩

theorem writeNumber_eq_ok_iff {n : Int} :
    writeNumber n = .ok (Text.ofInt n) ↔ n.natAbs < 10 ^ Text.digitLimit := by
  rw [← Text.isWritable_iff, writeNumber]
  split
  · next h => exact iff_of_true rfl h
  · next h => exact iff_of_false nofun h

theorem Bounds.span_eq_ok_iff {b : Bounds} : b.span = .ok b.text ↔
    b.min.natAbs < 10 ^ Text.digitLimit ∧ b.max.natAbs < 10 ^ Text.digitLimit := by
  rw [← writeNumber_eq_ok_iff, ← writeNumber_eq_ok_iff]
  rcases writeNumber_eq b.min with hmin | hmin
  · rcases writeNumber_eq b.max with hmax | hmax
    · exact iff_of_true (by rw [span, hmin, hmax]; rfl) ⟨hmin, hmax⟩
    · rw [span, hmin, hmax]
      constructor
      · intro h
        cases h
      · rintro ⟨-, h⟩
        cases h
  · rw [span, hmin]
    constructor
    · intro h
      cases h
    · rintro ⟨h, -⟩
      cases h

theorem Bounds.span_of_lt {bounds : Bounds} (hmin : 0 ≤ bounds.min)
    (hle : bounds.min ≤ bounds.max) (hmax : bounds.max < 10 ^ Text.digitLimit) :
    bounds.span = .ok bounds.text := by
  have hshort {n : Int} (hn : 0 ≤ n) (h : n < 10 ^ Text.digitLimit) :
      n.natAbs < 10 ^ Text.digitLimit := by
    apply Int.ofNat_lt.mp
    rw [Int.natAbs_of_nonneg hn, Int.natCast_pow]
    exact h
  exact span_eq_ok_iff.mpr
    ⟨hshort hmin (Int.lt_of_le_of_lt hle hmax), hshort (Int.le_trans hmin hle) hmax⟩

theorem Bounds.span_of_le {bounds : Bounds} (hmax : 10 ^ Text.digitLimit ≤ bounds.max) :
    bounds.span = .error .unwritableNumber := by
  refine bounds.span_eq.resolve_left fun hspan => ?_
  have hshort := Int.ofNat_lt.mpr (span_eq_ok_iff.mp hspan).2
  rw [Int.natCast_pow] at hshort
  exact Int.not_le_of_gt hshort (Int.le_trans hmax Int.le_natAbs)

theorem Bounds.bare_text (bounds : Bounds) : Bare bounds.text :=
  (bare_ofInt bounds.min).append ((bare_ofInt bounds.max).cons (.inr (.inl rfl)))

namespace Alias

theorem cutFrom_of_no_letter (h : ∀ c ∈ text, isLetter c = false) :
    cutFrom [] text = text.map Piece.other := by
  induction text with
  | nil => rfl
  | cons c rest ih =>
    obtain ⟨hc, hrest⟩ := List.forall_mem_cons.mp h
    simp only [cutFrom, hc, Bool.false_eq_true, if_false, lastName, List.nil_append, ih hrest,
      List.map_cons]

end Alias

theorem writeStars_of_not_mem {range : Text} (h : '*' ∉ text) : writeStars range text = text := by
  induction text with
  | nil => rfl
  | cons c rest ih =>
    simp only [List.mem_cons, not_or] at h
    obtain ⟨hc, hrest⟩ := h
    have hrest := ih hrest
    rw [writeStars] at hrest ⊢
    rw [List.flatMap_cons, if_neg (Ne.symm hc), hrest, List.singleton_append]

theorem writeStars_cons_star (range text : Text) :
    writeStars range ('*' :: text) = range ++ writeStars range text :=
  List.flatMap_cons

namespace Column
variable {column : Column}

theorem replaceNames_map_other (label : String) (table : AliasTable) (text : Text) :
    replaceNames label table (text.map Alias.Piece.other) = .ok text := by
  induction text with
  | nil => rfl
  | cons c rest ih => rw [List.map_cons, replaceNames, ih]; rfl

theorem substitute_of_no_letter (h : ∀ c ∈ raw, Alias.isLetter c = false) :
    column.substitute raw = .ok raw := by
  unfold substitute
  split
  · rfl
  · rw [Alias.cut, Alias.cutFrom_of_no_letter h]
    exact replaceNames_map_other _ _ raw

/-- One atom is neither sorted nor merged with anything. -/
theorem compile_single (hwritten : column.bounds.span = .ok column.bounds.text) (hne : raw ≠ [])
    (hraw : ∀ c ∈ raw, isColumnCharacter c = true)
    (hcomma : ',' ∉ raw) :
    column.compile raw =
      column.resolve (writeStars column.bounds.text raw) >>= column.merge [] := by
  have hsubstitute : column.substitute raw = .ok raw :=
    substitute_of_no_letter fun c hc => not_isLetter_of_isColumnCharacter (hraw c hc)
  have hpieces := Text.pieces_of_not_mem
    (comma_not_mem_writeStars hcomma hsubstitute column.bounds)
  have hatoms : column.atoms raw = .ok [writeStars column.bounds.text raw] :=
    (atoms_eq_ok_iff (List.cons_ne_nil _ _) hpieces).mpr
      ⟨hwritten, fun hmany => absurd hmany (Nat.lt_irrefl 1), (digitOrder_singleton _).symm⟩
  calc column.compile raw
      = column.collect [] [writeStars column.bounds.text raw] :=
        compile_eq_collect hsubstitute ⟨hne, hraw⟩ hatoms
    _ = column.resolve (writeStars column.bounds.text raw) >>= column.merge [] := by
        simp only [collect, bind_pure]

theorem merge_run (hmin : 0 ≤ column.bounds.min) (hvalues : values.Pairwise (· < ·))
    (hwithin : ∀ v ∈ values, column.bounds.Contains v) :
    column.merge [] (.run values) = .ok values := by
  refine merge_eq_ok_iff.mpr ⟨hwithin, ?_⟩
  have hbound : ∀ v ∈ values, runningMax [] < v := by
    intro v hv
    have := (hwithin v hv).1
    rw [runningMax, List.getLastD_nil]
    omega
  exact (records_eq_self hbound hvalues).symm

theorem scalar_numeral (n : Numeral) : column.scalar n.text = .ok n.value := by
  have hminus : '-' ∉ n.text := n.not_mem rfl
  unfold scalar
  split
  next negative digits heq =>
  split at heq
  · next rest htext =>
    rw [htext] at hminus
    exact absurd List.mem_cons_self hminus
  · cases heq
    rw [if_pos n.digits, n.readNumber_text]
    rfl

theorem resolve_numeral (n : Numeral) : column.resolve n.text = .ok (.single n.value) := by
  rw [resolve, Text.cut?_of_not_mem (n.not_mem rfl)]
  rw [resolveRange, Text.cut?_of_not_mem (n.not_mem rfl), scalar_numeral]
  rfl

/-- The upper end of a range reaches to the second dash. -/
theorem resolveRange_cut {low rest : Text} (hne : low ≠ []) (hlow : '-' ∉ low) (stepText : Text) :
    column.resolveRange (low ++ '-' :: rest) stepText =
      .run <$> column.resolveEnds (low ++ '-' :: rest) low (rest.takeWhile (· ≠ '-')) stepText := by
  have hlowEmpty : ¬ low.isEmpty = true := by
    rw [List.isEmpty_iff]
    exact hne
  rw [resolveRange, Text.cut?_append hlow]
  simp only [if_neg hlowEmpty]

theorem resolveRange_dash {low high : Text} (hne : low ≠ []) (hlow : '-' ∉ low) (hhigh : '-' ∉ high)
    (stepText : Text) :
    column.resolveRange (low ++ '-' :: high) stepText =
      .run <$> column.resolveEnds (low ++ '-' :: high) low high stepText := by
  have hhighWhole : high.takeWhile (· ≠ '-') = high := by
    rw [List.takeWhile_eq_self_iff]
    intro c hc
    have hdash : c ≠ '-' := fun he => hhigh (he ▸ hc)
    simpa using hdash
  rw [resolveRange_cut hne hlow, hhighWhole]

theorem resolve_stepped {base stepText : Text} (hbase : '/' ∉ base) (hstep : '/' ∉ stepText) :
    column.resolve (base ++ '/' :: stepText) =
      column.resolveRange (column.steppedBase base) stepText := by
  rw [resolve, Text.cut?_append hbase]
  simp only [Text.pieces_of_not_mem hstep]
  rfl

theorem resolve_unstepped (h : '/' ∉ text) :
    column.resolve text = column.resolveRange text Numeral.one.text := by
  rw [resolve, Text.cut?_of_not_mem h]
  rfl

/-- A range with a step: the first of its faults, or every value whose place in the range, counted
from one, is a multiple of the step. -/
def steppedRange (column : Column) (text stepText : Text) (start stop step : Nat) :
    Except Fault (List Int) :=
  if start < column.bounds.min ∨ column.bounds.max < stop then
    .error (.parse (.rangeOutside column.label text start stop column.bounds))
  else if stop ≤ start then .error (.parse (.badRange column.label text))
  else if step = 0 then .error (.parse (.badStep column.label stepText))
  else .ok ((Stride.indices start stop).filter fun i => (step : Int) ∣ i - start + 1)

theorem step_numeral (n : Numeral) : column.step n.text =
    if n.value = 0 then .error (.parse (.badStep column.label n.text)) else .ok n.value := by
  rw [step, if_pos n.digits, n.readNumber_text]
  rfl

theorem resolveEnds_numerals (text : Text) (a b n : Numeral) :
    column.resolveEnds text a.text b.text n.text =
      column.steppedRange text n.text a.value b.value n.value := by
  have hdigits : (!(Text.isNumeral a.text && Text.isNumeral b.text)) = false := by
    rw [a.digits, b.digits]
    rfl
  have hsteps : (column.step n.text >>= fun step => Stride.range a.value b.value step) =
      if n.value = 0 then .error (.parse (.badStep column.label n.text))
      else .ok ((Stride.indices a.value b.value).filter fun i => (n.value : Int) ∣ i - a.value + 1) := by
    rw [step_numeral]
    split
    · rfl
    · next hn => exact Stride.range_eq_ok _ _ (Int.natCast_ne_zero.mpr hn)
  unfold resolveEnds steppedRange
  rw [← hsteps, hdigits, a.readNumber_text, b.readNumber_text]
  simp only [Bool.or_eq_true, decide_eq_true_eq]
  rfl

theorem compile_bare (hwritten : column.bounds.span = .ok column.bounds.text) (hne : raw ≠ [])
    (hraw : Bare raw) :
    column.compile raw = column.resolve raw >>= column.merge [] := by
  rw [compile_single hwritten hne hraw.isColumnCharacter (hraw.not_mem rfl nofun nofun),
    writeStars_of_not_mem (hraw.not_mem rfl nofun nofun)]

/-- A star at the beginning stands for the bounds. -/
theorem compile_star (hwritten : column.bounds.span = .ok column.bounds.text) (hraw : Bare raw) :
    column.compile ('*' :: raw) = column.compile (column.bounds.text ++ raw) := by
  have hrange : Bare column.bounds.text := column.bounds.bare_text
  have hcharacters : ∀ c ∈ '*' :: raw, isColumnCharacter c = true := by
    intro c hc
    rcases List.mem_cons.mp hc with rfl | hc
    · rfl
    · exact hraw.isColumnCharacter c hc
  have hcomma : ',' ∉ '*' :: raw := by
    simp only [List.mem_cons, not_or]
    exact ⟨by decide, hraw.not_mem rfl nofun nofun⟩
  have hexpand : writeStars column.bounds.text ('*' :: raw) = column.bounds.text ++ raw := by
    rw [writeStars_cons_star, writeStars_of_not_mem (hraw.not_mem rfl nofun nofun)]
  have hne : column.bounds.text ++ raw ≠ [] := by simp [Bounds.text]
  rw [compile_single hwritten (List.cons_ne_nil _ _) hcharacters hcomma, hexpand,
    compile_bare hwritten hne (hrange.append hraw)]

theorem steppedBase_number {base : Text} (hne : base ≠ []) (hdash : '-' ∉ base) :
    column.steppedBase base = base ++ '-' :: Text.ofInt column.bounds.max := by
  have hempty : base.isEmpty = false := List.isEmpty_eq_false_iff.mpr hne
  have hcontains : base.contains '-' = false := by simpa using hdash
  rw [steppedBase, hempty, hcontains]
  rfl

theorem steppedBase_range {base : Text} (hdash : '-' ∈ base) : column.steppedBase base = base := by
  have hcontains : base.contains '-' = true := by simpa using hdash
  rw [steppedBase, hcontains, Bool.not_true, Bool.and_false]
  rfl

/-- A single range loses none of its values to merging. -/
theorem merge_steppedRange (hmin : 0 ≤ column.bounds.min) (text stepText : Text)
    (start stop step : Nat) :
    (Resolved.run <$> column.steppedRange text stepText start stop step) >>= column.merge [] =
      column.steppedRange text stepText start stop step := by
  unfold steppedRange
  split
  · rfl
  next hbounds =>
  split
  · rfl
  split
  · rfl
  have hascends := (Stride.pairwise_indices start stop).filter
    fun i => decide ((step : Int) ∣ i - start + 1)
  refine merge_run hmin hascends fun v hv => ?_
  have hends := Stride.mem_indices.mp (List.mem_filter.mp hv).1
  simp only [Bounds.Contains]
  omega

theorem compile_numeral (hwritten : column.bounds.span = .ok column.bounds.text) (a : Numeral) :
    column.compile a.text =
      if column.bounds.Contains a.value then
        .ok [if column.weekly then (a.value : Int) % 7 else a.value]
      else .error (.parse (.valueOutside column.label a.value column.bounds)) := by
  have hsingle : column.compile a.text = column.merge [] (.single a.value) := by
    rw [compile_bare hwritten a.ne_nil (Bare.numeral a), resolve_numeral]
    rfl
  rw [hsingle]
  split
  · next hwithin =>
    refine merge_eq_ok_iff.mpr ⟨by simpa [Resolved.written] using hwithin, ?_⟩
    have hkept : (-1 : Int) < if column.weekly then (a.value : Int) % 7 else a.value := by
      split <;> omega
    rw [List.nil_append, Resolved.values]
    exact (if_pos hkept).symm
  · next hout =>
    have hfirst : [(a.value : Int)].find? (fun v => !decide (column.bounds.Contains v)) =
        some (a.value : Int) :=
      List.find?_cons_of_pos (by simpa using hout)
    rw [merge, Resolved.written, hfirst]
    rfl

theorem compile_stepped_range (hwritten : column.bounds.span = .ok column.bounds.text)
    (hmin : 0 ≤ column.bounds.min) (a b n : Numeral) :
    column.compile (a.text ++ '-' :: b.text ++ '/' :: n.text) =
      column.steppedRange (a.text ++ '-' :: b.text) n.text a.value b.value n.value := by
  have hraw := (Bare.range a (Bare.numeral b)).stepped n
  rw [compile_bare hwritten (by simp) hraw,
    resolve_stepped (slash_not_mem_range a (b.not_mem rfl)) (n.not_mem rfl),
    steppedBase_range (dash_mem_range _ _),
    resolveRange_dash a.ne_nil (a.not_mem rfl) (b.not_mem rfl), resolveEnds_numerals,
    merge_steppedRange hmin]

theorem compile_range (hwritten : column.bounds.span = .ok column.bounds.text) (a b : Numeral) :
    column.compile (a.text ++ '-' :: b.text) =
      column.compile (a.text ++ '-' :: b.text ++ '/' :: Numeral.one.text) := by
  have hbase := Bare.range a (Bare.numeral b)
  have hslash := slash_not_mem_range a (b.not_mem (rfl : Text.isDigit '/' = false))
  rw [compile_bare hwritten (by simp) hbase,
    compile_bare hwritten (by simp) (hbase.stepped Numeral.one),
    resolve_unstepped hslash, resolve_stepped hslash (Numeral.one.not_mem rfl),
    steppedBase_range (dash_mem_range _ _)]

theorem compile_open_range (hwritten : column.bounds.span = .ok column.bounds.text)
    (a n : Numeral) :
    column.compile (a.text ++ '/' :: n.text) =
      column.compile (a.text ++ '-' :: Text.ofInt column.bounds.max ++ '/' :: n.text) := by
  have hopen := (Bare.numeral a).stepped n
  have hrange := (Bare.range a (bare_ofInt column.bounds.max)).stepped n
  have hslash := slash_not_mem_range a (slash_not_mem_ofInt column.bounds.max)
  have hstep := n.not_mem (rfl : Text.isDigit '/' = false)
  rw [compile_bare hwritten (by simp) hopen, compile_bare hwritten (by simp) hrange,
    resolve_stepped (a.not_mem rfl) hstep, resolve_stepped hslash hstep,
    steppedBase_number a.ne_nil (a.not_mem rfl), steppedBase_range (dash_mem_range _ _)]

theorem compile_whole (hmin : 0 ≤ column.bounds.min)
    (hspan : column.bounds.min < column.bounds.max)
    (hmax : column.bounds.max < 10 ^ Text.digitLimit) :
    column.compile ['*'] = .ok column.bounds.values := by
  obtain ⟨a, ha, hlow⟩ := Numeral.exists_ofInt hmin (Int.lt_trans hspan hmax)
  obtain ⟨b, hb, hhigh⟩ := Numeral.exists_ofInt (Int.le_trans hmin (Int.le_of_lt hspan)) hmax
  have hwritten := Bounds.span_of_lt hmin (Int.le_of_lt hspan) hmax
  have htext : column.bounds.text = a.text ++ '-' :: b.text := by
    rw [Bounds.text, ha, hb]
  have hfits : ¬ ((a.value : Int) < column.bounds.min ∨ column.bounds.max < (b.value : Int)) := by
    rw [hlow, hhigh]
    simp
  have hascends : ¬ b.value ≤ a.value := by
    rw [← Int.ofNat_le, hlow, hhigh]
    exact Int.not_le_of_gt hspan
  have hevery : (Stride.indices a.value b.value).filter
      (fun i => ((1 : Nat) : Int) ∣ i - a.value + 1) = Stride.indices a.value b.value :=
    List.filter_eq_self.mpr fun i _ => decide_eq_true (Int.one_dvd _)
  rw [compile_star hwritten (fun c hc => absurd hc List.not_mem_nil), List.append_nil, htext,
    compile_range hwritten, compile_stepped_range hwritten hmin, steppedRange, if_neg hfits,
    if_neg hascends, if_neg (by decide)]
  rw [Bounds.values, ← hlow, ← hhigh]
  exact congrArg Except.ok hevery

end Column

namespace Field
open Column

theorem max_lt_pow (f : Field) {k : Nat} (hk : 2 ≤ k) : f.bounds.max < 10 ^ k := by
  have htwo : f.bounds.max < ((10 ^ 2 : Nat) : Int) := by cases f <;> decide
  have hpow : 10 ^ 2 ≤ 10 ^ k := Nat.pow_le_pow_right (by decide) hk
  have hcast : ((10 ^ k : Nat) : Int) = 10 ^ k := Int.natCast_pow 10 k
  rw [← hcast]
  exact Int.lt_of_lt_of_le htwo (Int.ofNat_le.mpr hpow)

/-- The meaning of each documented item, for bounds of choice and numbers with any leading zeros. A
range is refused for its bounds first, then for the order of its ends, then for its step. -/
theorem compile_documented_items (f : Field) (bounds : Bounds) (hmin : 0 ≤ bounds.min)
    (hspan : bounds.min < bounds.max) (hmax : bounds.max < 10 ^ Text.digitLimit)
    (a b n : Numeral) :
    (f.within bounds).compile ['*'] = .ok bounds.values ∧
    (f.within bounds).compile a.text =
      (if bounds.Contains a.value then
        .ok [if f = dayOfWeek then (a.value : Int) % 7 else a.value]
      else .error (.parse (.valueOutside f.name a.value bounds))) ∧
    (f.within bounds).compile (a.text ++ '-' :: b.text ++ '/' :: n.text) =
      (if a.value < bounds.min ∨ bounds.max < b.value then
        .error (.parse (.rangeOutside f.name (a.text ++ '-' :: b.text) a.value b.value bounds))
      else if b.value ≤ a.value then .error (.parse (.badRange f.name (a.text ++ '-' :: b.text)))
      else if n.value = 0 then .error (.parse (.badStep f.name n.text))
      else .ok ((Stride.indices a.value b.value).filter fun i => (n.value : Int) ∣ i - a.value + 1)) ∧
    (f.within bounds).compile (a.text ++ '-' :: b.text) =
      (f.within bounds).compile (a.text ++ '-' :: b.text ++ "/1".toList) ∧
    (f.within bounds).compile (a.text ++ '/' :: n.text) =
      (f.within bounds).compile (a.text ++ '-' :: Text.ofInt bounds.max ++ '/' :: n.text) ∧
    (f.within bounds).compile ('*' :: '/' :: n.text) =
      (f.within bounds).compile (bounds.text ++ '/' :: n.text) := by
  have hwritten : (f.within bounds).bounds.span = .ok (f.within bounds).bounds.text :=
    Bounds.span_of_lt hmin (Int.le_of_lt hspan) hmax
  have hnumber := compile_numeral hwritten a
  simp only [within, decide_eq_true_eq] at hnumber
  have hstep : Bare ('/' :: n.text) := (Bare.numeral n).cons (.inr (.inr rfl))
  refine ⟨compile_whole hmin hspan hmax, hnumber, ?_, ?_, ?_, ?_⟩
  · exact compile_stepped_range hwritten hmin a b n
  · exact compile_range hwritten a b
  · exact compile_open_range hwritten a n
  · exact compile_star hwritten hstep

theorem compile_documented_items_hour :
    (0 ≤ hour.bounds.min ∧ hour.bounds.min < hour.bounds.max ∧
      hour.bounds.max < 10 ^ Text.digitLimit) ∧
      hour.column.compile "*".toList = .ok hour.bounds.values ∧
        hour.column.compile "09".toList = .ok [9] ∧
          hour.column.compile "09-17/4".toList = .ok [12, 16] := by
  have hmax : hour.bounds.max < 10 ^ Text.digitLimit := hour.max_lt_pow (by decide)
  obtain ⟨hstar, hnumber, hrange, -⟩ := compile_documented_items hour hour.bounds (by decide)
    (by decide) hmax ⟨"09".toList, rfl, by decide⟩ ⟨"17".toList, rfl, by decide⟩
    ⟨"4".toList, rfl, by decide⟩
  exact ⟨⟨by decide, by decide, hmax⟩, hstar, hnumber, hrange⟩

end Field
end Crontab
