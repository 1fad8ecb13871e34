import Mathlib.Data.List.SplitBy
import Crontab.Proofs.Field.Meaning
import Crontab.Proofs.Field.Rewriting

/-! # What replacing names does

A text is looked at as runs of letters and runs of other characters. Cutting a run
of letters into threes gives its names, and nothing outside of the run takes part
in that. A text is rewritten exactly if all its names are known, and then no letter
is left. The case of its letters has no influence.
-/
namespace Crontab
namespace Alias
variable {c : Char} {run rest t : Text}

def sameKind (a b : Char) : Bool :=
  isLetter a == isLetter b

/-- The longest stretches of letters and of other characters. -/
def runs (t : Text) : List Text :=
  t.splitBy sameKind

/-- Pieces of three from the left, the last one possibly shorter. -/
def threes : Text → List Text
  | [] => []
  | [a] => [[a]]
  | [a, b] => [[a, b]]
  | a :: b :: c :: rest => [a, b, c] :: threes rest

/-- The names in a text. Each run of letters is cut by itself. -/
def names (t : Text) : List Text :=
  (runs t).flatMap fun run => if run.all isLetter then threes run else []

section Cutting

def piecesOfRun (run : Text) : List Piece :=
  if run.all isLetter then (threes run).map .name else run.map .other

theorem cutFrom_of_head (hrest : ∀ c ∈ rest.head?, isLetter c = false) (pending : Text) :
    cutFrom pending rest = lastName pending ++ cutFrom [] rest := by
  cases rest with
  | nil => simp [cutFrom, lastName]
  | cons c rest =>
    have hc : isLetter c = false := hrest c rfl
    simp [cutFrom, lastName, hc]

theorem cutFrom_letters (hrun : ∀ c ∈ run, isLetter c = true)
    (hrest : ∀ c ∈ rest.head?, isLetter c = false) :
    cutFrom [] (run ++ rest) = (threes run).map .name ++ cutFrom [] rest := by
  fun_induction threes run with
  | case1 => rfl
  | case2 a =>
    have ha : isLetter a = true := hrun a List.mem_cons_self
    simp [cutFrom, ha, cutFrom_of_head hrest [a], lastName]
  | case3 a b =>
    simp only [List.forall_mem_cons] at hrun
    obtain ⟨ha, hb, -⟩ := hrun
    simp [cutFrom, ha, hb, cutFrom_of_head hrest [a, b], lastName]
  | case4 a b c run ih =>
    simp only [List.forall_mem_cons] at hrun
    obtain ⟨ha, hb, hc, hrun⟩ := hrun
    simp [cutFrom, ha, hb, hc, ih hrun]

theorem cutFrom_others (hrun : ∀ c ∈ run, isLetter c = false) :
    cutFrom [] (run ++ rest) = run.map .other ++ cutFrom [] rest := by
  induction run with
  | nil => rfl
  | cons c run ih =>
    obtain ⟨hc, hrun⟩ := List.forall_mem_cons.mp hrun
    simp [cutFrom, hc, lastName, ih hrun]

theorem isLetter_of_isChain {first : Char}
    (h : (first :: rest).IsChain fun a b => sameKind a b = true) (hc : c ∈ first :: rest) :
    isLetter c = isLetter first := by
  induction rest generalizing first with
  | nil => rw [List.mem_singleton.mp hc]
  | cons second rest ih =>
    obtain ⟨hsame, hrest⟩ := List.isChain_cons_cons.mp h
    rcases List.mem_cons.mp hc with rfl | hc
    · rfl
    · rw [ih hrest hc]
      exact (beq_iff_eq.mp hsame).symm

/-- Letters only, or no letter at all. -/
def Uniform (run : Text) : Prop :=
  (∀ c ∈ run, isLetter c = true) ∨ ∀ c ∈ run, isLetter c = false

theorem uniform_of_mem_runs (h : run ∈ runs t) : Uniform run := by
  have hchain := List.isChain_of_mem_splitBy h
  cases run with
  | nil => exact .inl nofun
  | cons first rest =>
    cases hfirst : isLetter first with
    | true => exact .inl fun c hc => (isLetter_of_isChain hchain hc).trans hfirst
    | false => exact .inr fun c hc => (isLetter_of_isChain hchain hc).trans hfirst

theorem cutFrom_uniform (hne : run ≠ []) (hrun : Uniform run)
    (hrest : (∀ c ∈ run, isLetter c = true) → ∀ c ∈ rest.head?, isLetter c = false) :
    cutFrom [] (run ++ rest) = piecesOfRun run ++ cutFrom [] rest := by
  rcases hrun with hletters | hothers
  · rw [cutFrom_letters hletters (hrest hletters), piecesOfRun,
      if_pos (List.all_eq_true.mpr hletters)]
  · obtain ⟨first, more, rfl⟩ := List.exists_cons_of_ne_nil hne
    have hall : ¬ (first :: more).all isLetter = true := by
      simp [hothers first List.mem_cons_self]
    rw [cutFrom_others hothers, piecesOfRun, if_neg hall]

/-- Runs of one kind are followed by runs of the other kind, so no name reaches over the end of its
run. -/
theorem cutFrom_flatten {runs : List Text} (hne : [] ∉ runs) (huniform : ∀ run ∈ runs, Uniform run)
    (hnext : runs.IsChain fun a b => ∃ ha hb, sameKind (a.getLast ha) (b.head hb) = false) :
    cutFrom [] runs.flatten = runs.flatMap piecesOfRun := by
  induction runs with
  | nil => rfl
  | cons run rest ih =>
    simp only [List.mem_cons, not_or] at hne
    obtain ⟨hrun, hothers⟩ := List.forall_mem_cons.mp huniform
    have hhead : (∀ c ∈ run, isLetter c = true) →
        ∀ c ∈ rest.flatten.head?, isLetter c = false := by
      intro hletters c hc
      cases rest with
      | nil => cases hc
      | cons next more =>
        obtain ⟨⟨hlast, hfirst, hdiffers⟩, -⟩ := List.isChain_cons_cons.mp hnext
        obtain ⟨first, others, rfl⟩ := List.exists_cons_of_ne_nil hfirst
        cases hc
        simpa [sameKind, hletters _ (List.getLast_mem hlast)] using hdiffers
    rw [List.flatten_cons, List.flatMap_cons, cutFrom_uniform (Ne.symm hne.1) hrun hhead,
      ih hne.2 hothers hnext.tail]

/-- A text is cut run by run. -/
theorem cut_eq_flatMap_runs (t : Text) : cut t = (runs t).flatMap piecesOfRun := by
  have hcut := cutFrom_flatten (List.nil_notMem_splitBy sameKind t)
    (fun run hrun => uniform_of_mem_runs hrun) (List.isChain_getLast_head_splitBy sameKind t)
  rwa [List.flatten_splitBy] at hcut

end Cutting

section Numbering
variable {table : AliasTable} {letters : Text}

/-- In lower case the letters are a name of the table. -/
def Known (table : AliasTable) (letters : Text) : Prop :=
  letters.flatMap lower ∈ table.map Prod.fst

instance (table : AliasTable) (letters : Text) : Decidable (Known table letters) :=
  inferInstanceAs (Decidable (_ ∈ _))

/-- What is written for a name. Nothing is written for a name that is not known. -/
def number (table : AliasTable) (letters : Text) : Text :=
  ((table.lookup (letters.flatMap lower)).map Text.ofNat).getD []

/-- The text with numbers in the place of its names. -/
def numbered (table : AliasTable) (t : Text) : Text :=
  (runs t).flatMap fun run =>
    if run.all isLetter then (threes run).flatMap (number table) else run

theorem lookup_eq_none_iff_not_known :
    table.lookup (letters.flatMap lower) = none ↔ ¬ Known table letters := by
  rw [List.lookup_eq_none_iff, Known, List.mem_map, not_exists]
  refine forall_congr' fun entry => ?_
  rw [not_and, bne_iff_ne, ne_comm]

namespace Piece

def name? : Piece → Option Text
  | .name letters => some letters
  | .other _ => none

def written (table : AliasTable) : Piece → Text
  | .name letters => number table letters
  | .other c => [c]

end Piece

theorem names_eq_filterMap_cut (t : Text) : names t = (cut t).filterMap Piece.name? := by
  rw [cut_eq_flatMap_runs, List.filterMap_flatMap, names]
  refine List.flatMap_congr fun run _ => ?_
  rw [piecesOfRun]
  split
  · simp [List.filterMap_map, Function.comp_def, Piece.name?]
  · simp [List.filterMap_map, Function.comp_def, Piece.name?]

theorem numbered_eq_flatMap_cut (table : AliasTable) (t : Text) :
    numbered table t = (cut t).flatMap (Piece.written table) := by
  rw [cut_eq_flatMap_runs, List.flatMap_assoc, numbered]
  refine List.flatMap_congr fun run _ => ?_
  rw [piecesOfRun]
  split
  · rw [List.flatMap_map]
    rfl
  · rw [List.flatMap_map]
    exact (List.flatMap_singleton' run).symm

theorem not_isLetter_of_mem_number (hc : c ∈ number table letters) : isLetter c = false := by
  rw [number] at hc
  cases hlookup : table.lookup (letters.flatMap lower) with
  | none =>
    rw [hlookup] at hc
    cases hc
  | some n =>
    rw [hlookup] at hc
    exact Text.not_isLetter_of_isDigit
      (Text.isDigit_of_char_isDigit (Text.isDigit_of_mem_ofNat hc))

theorem not_isLetter_of_mem_numbered (hc : c ∈ numbered table t) : isLetter c = false := by
  obtain ⟨run, hrun, hc⟩ := List.mem_flatMap.mp hc
  split at hc
  · obtain ⟨letters, -, hc⟩ := List.mem_flatMap.mp hc
    exact not_isLetter_of_mem_number hc
  · next hall =>
    rcases uniform_of_mem_runs hrun with hletters | hothers
    · exact absurd (List.all_eq_true.mpr hletters) hall
    · exact hothers c hc

end Numbering

section Case

/-- Only the capitals of the ASCII alphabet have a lower case of their own here. -/
theorem toLower_eq_or (c : Char) :
    c.toLower = c ∨ isLetter c = true ∧ isLetter c.toLower = true ∧ lower c.toLower = lower c := by
  by_cases hupper : 'A'.val ≤ c.val ∧ c.val ≤ 'Z'.val
  · have hcapitals : ∀ n ∈ List.range' 0x41 26, isLetter (Char.ofNat n) = true ∧
        isLetter (Char.ofNat n).toLower = true ∧
          lower (Char.ofNat n).toLower = lower (Char.ofNat n) := by
      decide
    have hcode : c.toNat ∈ List.range' 0x41 26 := by
      obtain ⟨hlow, hhigh⟩ := hupper
      rw [UInt32.le_iff_toNat_le] at hlow hhigh
      change 0x41 ≤ c.toNat at hlow
      change c.toNat ≤ 0x5A at hhigh
      exact List.mem_range'_1.mpr ⟨hlow, by omega⟩
    have hc := hcapitals c.toNat hcode
    rw [Char.ofNat_toNat] at hc
    exact .inr hc
  · exact .inl (dif_neg hupper)

theorem isLetter_toLower (c : Char) : isLetter c.toLower = isLetter c := by
  rcases toLower_eq_or c with hsame | ⟨hletter, hlower, -⟩
  · rw [hsame]
  · rw [hlower, hletter]

theorem lower_toLower (c : Char) : lower c.toLower = lower c := by
  rcases toLower_eq_or c with hsame | ⟨-, -, hlower⟩
  · rw [hsame]
  · exact hlower

def Piece.toLower : Piece → Piece
  | .name letters => .name (letters.map Char.toLower)
  | .other c => .other c

theorem lastName_map_toLower (pending : Text) :
    lastName (pending.map Char.toLower) = (lastName pending).map Piece.toLower := by
  cases pending <;> rfl

theorem cutFrom_map_toLower (pending t : Text) :
    cutFrom (pending.map Char.toLower) (t.map Char.toLower) =
      (cutFrom pending t).map Piece.toLower := by
  induction t generalizing pending with
  | nil => exact lastName_map_toLower pending
  | cons c rest ih =>
    have hlonger : pending.map Char.toLower ++ [c.toLower] = (pending ++ [c]).map Char.toLower := by
      rw [List.map_append, List.map_singleton]
    have hnew := ih []
    rw [List.map_nil] at hnew
    simp only [List.map_cons, cutFrom, isLetter_toLower, List.length_map]
    split
    · split
      · rw [hlonger, ih]
      · rw [hlonger, hnew]
        rfl
    · next hc =>
      have hsame : c.toLower = c := (toLower_eq_or c).resolve_right fun h => hc h.1
      rw [lastName_map_toLower, hnew, hsame, List.map_append]
      rfl

end Case

end Alias

namespace Column
variable {column : Column} {label : String} {table : AliasTable} {raw text : Text}

theorem replaceNames_map_toLower (label : String) (table : AliasTable) (pieces : List Alias.Piece) :
    replaceNames label table (pieces.map Alias.Piece.toLower) =
      replaceNames label table pieces := by
  induction pieces with
  | nil => rfl
  | cons piece rest ih =>
    cases piece with
    | other c =>
      simp only [List.map_cons, Alias.Piece.toLower, replaceNames, ih]
    | name letters =>
      have hlower : (letters.map Char.toLower).flatMap Alias.lower = letters.flatMap Alias.lower := by
        rw [List.flatMap_map]
        exact List.flatMap_congr fun c _ => Alias.lower_toLower c
      simp only [List.map_cons, Alias.Piece.toLower, replaceNames, hlower, ih]

/-- Names are replaced from the left until one of them is not known. -/
theorem replaceNames_eq (label : String) (table : AliasTable) (pieces : List Alias.Piece) :
    replaceNames label table pieces =
      match (pieces.filterMap Alias.Piece.name?).find? fun letters => ¬ Alias.Known table letters with
      | some letters => .error (.parse (.unknownAlias label (letters.flatMap Alias.lower)))
      | none => .ok (pieces.flatMap (Alias.Piece.written table)) := by
  induction pieces with
  | nil => rfl
  | cons piece rest ih =>
    cases piece with
    | other c =>
      rw [replaceNames, ih, List.filterMap_cons_none rfl]
      split <;> rfl
    | name letters =>
      have hnames : (.name letters :: rest).filterMap Alias.Piece.name? =
          letters :: rest.filterMap Alias.Piece.name? := rfl
      rw [replaceNames, hnames]
      cases hlookup : table.lookup (letters.flatMap Alias.lower) with
      | none =>
        have hunknown := Alias.lookup_eq_none_iff_not_known.mp hlookup
        rw [List.find?_cons_of_pos (by exact decide_eq_true hunknown)]
        rfl
      | some n =>
        have hknown : ¬ ¬ Alias.Known table letters := by
          simp [← Alias.lookup_eq_none_iff_not_known, hlookup]
        have hwritten : Alias.Piece.written table (.name letters) = Text.ofNat n := by
          rw [Alias.Piece.written, Alias.number, hlookup]
          rfl
        rw [List.find?_cons_of_neg (by simpa using hknown), ih, List.flatMap_cons, hwritten]
        dsimp only
        split <;> rfl

theorem substitute_eq (htable : column.aliases? = some table) (raw : Text) :
    column.substitute raw =
      match (Alias.names raw).find? fun letters => ¬ Alias.Known table letters with
      | some letters => .error (.parse (.unknownAlias column.label (letters.flatMap Alias.lower)))
      | none => .ok (Alias.numbered table raw) := by
  simp only [substitute, htable, replaceNames_eq, Alias.names_eq_filterMap_cut,
    Alias.numbered_eq_flatMap_cut]

theorem substitute_map_toLower (htable : column.aliases? = some table) (raw : Text) :
    column.substitute (raw.map Char.toLower) = column.substitute raw := by
  have hcut : Alias.cut (raw.map Char.toLower) = (Alias.cut raw).map Alias.Piece.toLower :=
    Alias.cutFrom_map_toLower [] raw
  simp only [substitute, htable, hcut, replaceNames_map_toLower]

/-- A text is rewritten exactly if all its names are known, and refused for the first one that is
not. A rewritten text has no letters, so that nothing is left to rewrite, and texts that differ only
in the case of their letters are rewritten alike. -/
theorem substitute_run_by_run (htable : column.aliases? = some table) (raw : Text) :
    (∀ text, column.substitute raw = .ok text ↔
        (∀ letters ∈ Alias.names raw, Alias.Known table letters) ∧
          text = Alias.numbered table raw) ∧
      (∀ fault, column.substitute raw = .error fault ↔
        ∃ letters, (Alias.names raw).find? (fun name => ¬ Alias.Known table name) = some letters ∧
          fault = .parse (.unknownAlias column.label (letters.flatMap Alias.lower))) ∧
      (∀ text, column.substitute raw = .ok text →
        (∀ c ∈ text, Alias.isLetter c = false) ∧ column.substitute text = .ok text) ∧
      ∀ other : Text, other.map Char.toLower = raw.map Char.toLower →
        column.substitute other = column.substitute raw := by
  have hok (text : Text) : column.substitute raw = .ok text ↔
      (∀ letters ∈ Alias.names raw, Alias.Known table letters) ∧
        text = Alias.numbered table raw := by
    have hnone : (∀ letters ∈ Alias.names raw, Alias.Known table letters) ↔
        (Alias.names raw).find? (fun name => ¬ Alias.Known table name) = none := by
      simp [List.find?_eq_none]
    rw [substitute_eq htable, hnone]
    cases (Alias.names raw).find? fun name => ¬ Alias.Known table name with
    | none => simp [eq_comm]
    | some letters => simp
  refine ⟨hok, fun fault => ?_, fun text htext => ?_, fun other hother => ?_⟩
  · rw [substitute_eq htable]
    cases (Alias.names raw).find? fun name => ¬ Alias.Known table name with
    | none => simp
    | some letters => simp [eq_comm]
  · obtain ⟨-, rfl⟩ := (hok text).mp htext
    have hletters : ∀ c ∈ Alias.numbered table raw, Alias.isLetter c = false :=
      fun c hc => Alias.not_isLetter_of_mem_numbered hc
    exact ⟨hletters, substitute_of_no_letter hletters⟩
  · rw [← substitute_map_toLower htable other, hother, substitute_map_toLower htable raw]

end Column

namespace Field
open Column

theorem substitute_run_by_run_months :
    month.column.aliases? = some monthNames ∧
      Alias.names "MARfeb-dEC".toList = ["MAR".toList, "feb".toList, "dEC".toList] ∧
      month.column.substitute "MARfeb-dEC".toList = .ok "32-12".toList ∧
      month.column.substitute "32-12".toList = .ok "32-12".toList ∧
      "marFEB-Dec".toList.map Char.toLower = "MARfeb-dEC".toList.map Char.toLower ∧
      month.column.substitute "marFEB-Dec".toList = .ok "32-12".toList ∧
      month.column.substitute "mayAP1r".toList =
        .error (.parse (.unknownAlias "month" "ap".toList)) := by
  have htable : month.column.aliases? = some monthNames := rfl
  obtain ⟨hok, -, hagain, hcase⟩ := substitute_run_by_run htable "MARfeb-dEC".toList
  obtain ⟨-, herror, -, -⟩ := substitute_run_by_run htable "mayAP1r".toList
  have hnames : Alias.names "MARfeb-dEC".toList = ["MAR".toList, "feb".toList, "dEC".toList] := by
    decide
  have hrewritten : month.column.substitute "MARfeb-dEC".toList = .ok "32-12".toList :=
    (hok _).mpr ⟨by decide, by decide⟩
  have hsame : "marFEB-Dec".toList.map Char.toLower = "MARfeb-dEC".toList.map Char.toLower := by
    decide
  exact ⟨htable, hnames, hrewritten, (hagain _ hrewritten).2, hsame,
    (hcase _ hsame).trans hrewritten, (herror _).mpr ⟨"AP".toList, by decide, rfl⟩⟩

end Field
end Crontab
