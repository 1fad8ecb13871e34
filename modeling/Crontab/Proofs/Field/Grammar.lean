import Crontab.Proofs.Field.Meaning
import Crontab.Proofs.Field.Rewriting

/-! # The grammar of an item

Names and stars are rewritten as texts before an item is cut at its signs, so
neighbours may grow together: two names are read as one number, and so are the
digits before a star and the least value of the column. A number may be written
with a minus sign, which leaves no number but zero within the bounds. What follows
the second dash of a range, and what stands between its first slash and its last,
is not looked at. Apart from that an item that compiles has one of the documented
forms.
-/
namespace Crontab

/-- What may stand before a star, for a number, and for a step. -/
structure ItemGrammar where
  lead : Text → Prop
  number : Text → Prop
  step : Text → Prop

namespace ItemGrammar

inductive Base (g : ItemGrammar) : Text → Prop
  | star {v : Text} (hv : g.lead v) : g.Base (v ++ ['*'])
  | number {v : Text} (hv : g.number v) : g.Base v
  | range {v w : Text} (hv : g.number v) (hw : g.number w) : g.Base (v ++ '-' :: w)

inductive Item (g : ItemGrammar) : Text → Prop
  | plain {t : Text} (ht : g.Base t) : g.Item t
  | stepped {t n : Text} (ht : g.Base t) (hn : g.step n) : g.Item (t ++ '/' :: n)

/-- A base, or one with more behind it that is not looked at. A star is a dash between two numbers,
so a range ends at the dash behind its star, or at the first dash or star behind its upper end. -/
inductive OpenBase (g : ItemGrammar) : Text → Prop
  | closed {t : Text} (ht : g.Base t) : g.OpenBase t
  | star {v ignored : Text} (hv : g.lead v) (hslash : '/' ∉ ignored) :
      g.OpenBase (v ++ '*' :: '-' :: ignored)
  | range {v w ignored : Text} {c : Char} (hv : g.number v) (hw : g.number w)
      (hc : c = '-' ∨ c = '*') (hslash : '/' ∉ ignored) :
      g.OpenBase (v ++ '-' :: (w ++ c :: ignored))

/-- Of several steps the last one counts. -/
inductive OpenItem (g : ItemGrammar) : Text → Prop
  | plain {t : Text} (ht : g.OpenBase t) : g.OpenItem t
  | stepped {t n : Text} (ht : g.OpenBase t) (hn : g.step n) : g.OpenItem (t ++ '/' :: n)
  | restepped {t n : Text} (ht : g.OpenBase t) (ignored : Text) (hn : g.step n) :
      g.OpenItem (t ++ '/' :: (ignored ++ '/' :: n))

section Deciding
variable {g : ItemGrammar} {t : Text}

theorem base_iff : g.Base t ↔ (∃ v w, t = v ++ '*' :: w ∧ w = [] ∧ g.lead v) ∨ g.number t ∨
    ∃ v w, t = v ++ '-' :: w ∧ g.number v ∧ g.number w := by
  constructor
  · rintro (hv | hv | ⟨hv, hw⟩)
    · exact .inl ⟨_, [], rfl, rfl, hv⟩
    · exact .inr (.inl hv)
    · exact .inr (.inr ⟨_, _, rfl, hv, hw⟩)
  · rintro (⟨v, w, rfl, rfl, hv⟩ | hv | ⟨v, w, rfl, hv, hw⟩)
    · exact .star hv
    · exact .number hv
    · exact .range hv hw

theorem item_iff : g.Item t ↔ g.Base t ∨ ∃ u n, t = u ++ '/' :: n ∧ g.Base u ∧ g.step n := by
  constructor
  · rintro (ht | ⟨ht, hn⟩)
    · exact .inl ht
    · exact .inr ⟨_, _, rfl, ht, hn⟩
  · rintro (ht | ⟨u, n, rfl, ht, hn⟩)
    · exact .plain ht
    · exact .stepped ht hn

instance [DecidablePred g.lead] [DecidablePred g.number] : DecidablePred g.Base := fun t =>
  decidable_of_iff ((∃ k < t.length, t[k]? = some '*' ∧ t.drop (k + 1) = [] ∧ g.lead (t.take k)) ∨
    g.number t ∨
      ∃ k < t.length, t[k]? = some '-' ∧ g.number (t.take k) ∧ g.number (t.drop (k + 1)))
    (by rw [base_iff, Text.exists_split_iff, Text.exists_split_iff])

instance [DecidablePred g.lead] [DecidablePred g.number] [DecidablePred g.step] :
    DecidablePred g.Item := fun t =>
  decidable_of_iff (g.Base t ∨
    ∃ k < t.length, t[k]? = some '/' ∧ g.Base (t.take k) ∧ g.step (t.drop (k + 1)))
    (by rw [item_iff, Text.exists_split_iff])

end Deciding

/-- The forms of a text in which names are replaced. -/
def digits : ItemGrammar where
  lead v := v = [] ∨ Text.isNumeral v = true
  number v := Text.isNumeral v = true
  step n := Text.isNumeral n = true

end ItemGrammar

section Stars
variable {bounds : Bounds} {t : Text}

theorem dash_mem_writeStars (h : '*' ∈ t) : '-' ∈ writeStars bounds.text t := by
  refine List.mem_flatMap.mpr ⟨'*', h, ?_⟩
  rw [if_pos rfl, Bounds.text]
  exact dash_mem_range _ _

theorem slash_not_mem_writeStars (h : '/' ∉ t) : '/' ∉ writeStars bounds.text t := by
  intro hslash
  obtain ⟨c, hc, hslash⟩ := List.mem_flatMap.mp hslash
  split at hslash
  · rcases Bounds.eq_or_isDigit_of_mem_text hslash with hdash | hdigit
    · exact absurd hdash (by decide)
    · exact absurd hdigit (by decide)
  · rw [List.mem_singleton] at hslash
    exact h (hslash ▸ hc)

theorem writeStars_append_star (front back : Text) :
    writeStars bounds.text (front ++ '*' :: back) = writeStars bounds.text front ++
      (Text.ofInt bounds.min ++ '-' :: (Text.ofInt bounds.max ++ writeStars bounds.text back)) := by
  calc writeStars bounds.text (front ++ '*' :: back)
      = writeStars bounds.text front ++ (bounds.text ++ writeStars bounds.text back) :=
        List.flatMap_append
    _ = _ := by simp only [Bounds.text, List.append_assoc, List.cons_append]

theorem star_not_mem_of_isNumeral (h : Text.isNumeral (writeStars bounds.text t) = true) :
    '*' ∉ t := by
  intro hstar
  exact Text.not_mem_of_isNumeral h (by decide) (dash_mem_writeStars hstar)

/-- The text up to the first dash that follows a text without dashes. -/
theorem takeWhile_append {front : Text} (hfront : '-' ∉ front) (back : Text) :
    (front ++ back).takeWhile (· ≠ '-') = front ++ back.takeWhile (· ≠ '-') := by
  refine List.takeWhile_append_of_pos fun c hc => decide_eq_true ?_
  rintro rfl
  exact hfront hc

theorem takeWhile_writeStars_star (hmin : 0 ≤ bounds.min) (t : Text) :
    (writeStars bounds.text ('*' :: t)).takeWhile (· ≠ '-') = Text.ofInt bounds.min := by
  have hleast : '-' ∉ Text.ofInt bounds.min :=
    Text.not_mem_of_isNumeral (Text.isNumeral_ofInt hmin) rfl
  rw [← List.nil_append ('*' :: t), writeStars_append_star, writeStars, List.flatMap_nil,
    List.nil_append, takeWhile_append hleast, List.takeWhile_cons_of_neg (by decide),
    List.append_nil]

theorem eq_nil_or_dash_of_takeWhile (hmin : 0 ≤ bounds.min)
    (h : (writeStars bounds.text t).takeWhile (· ≠ '-') = []) : t = [] ∨ ∃ rest, t = '-' :: rest := by
  cases t with
  | nil => exact .inl rfl
  | cons c rest =>
    by_cases hstar : c = '*'
    · rw [hstar, takeWhile_writeStars_star hmin] at h
      exact absurd h (Text.isNumeral_iff.mp (Text.isNumeral_ofInt hmin)).1
    by_cases hdash : c = '-'
    · exact .inr ⟨rest, by rw [hdash]⟩
    · rw [writeStars, List.flatMap_cons, if_neg hstar, List.singleton_append,
        List.takeWhile_cons, if_pos (decide_eq_true hdash)] at h
      cases h

def IsDash (c : Char) : Prop :=
  c = '-' ∨ c = '*'

instance : DecidablePred IsDash :=
  fun c => inferInstanceAs (Decidable (c = '-' ∨ c = '*'))

theorem not_mem_of_not_isDash (h : ∀ c ∈ t, ¬ IsDash c) : '-' ∉ t ∧ '*' ∉ t :=
  ⟨fun hdash => h '-' hdash (.inl rfl), fun hstar => h '*' hstar (.inr rfl)⟩

/-- A text is cut at its first dash, if it has one. -/
theorem exists_first_dash (t : Text) : ('-' ∉ t ∧ '*' ∉ t) ∨
    ∃ front c back, t = front ++ c :: back ∧ IsDash c ∧ '-' ∉ front ∧ '*' ∉ front := by
  cases hfind : t.find? fun c => decide (IsDash c) with
  | none => exact .inl (not_mem_of_not_isDash (by simpa using hfind))
  | some c =>
    obtain ⟨hc, front, back, rfl, hfront⟩ := List.find?_eq_some_iff_append.mp hfind
    exact .inr ⟨front, c, back, rfl, of_decide_eq_true hc,
      not_mem_of_not_isDash (by simpa using hfront)⟩

/-- The upper end of a range, as it is written before stars are. If a star follows it, its digits
grow together with those of the least value, and it is not that value alone. -/
theorem upper_of_takeWhile (hmin : 0 ≤ bounds.min)
    (h : Text.isNumeral ((writeStars bounds.text t).takeWhile (· ≠ '-')) = true)
    (hnot : (writeStars bounds.text t).takeWhile (· ≠ '-') ≠ Text.ofInt bounds.min ) :
    Text.isNumeral t = true ∨ ∃ w c ignored, t = w ++ c :: ignored ∧ IsDash c ∧
      Text.isNumeral w = true := by
  rcases exists_first_dash t with ⟨hdash, hstar⟩ | ⟨w, c, ignored, rfl, hc, hdash, hstar⟩
  · have hwhole := takeWhile_append hdash []
    rw [List.append_nil, List.takeWhile_nil, List.append_nil] at hwhole
    rw [writeStars_of_not_mem hstar, hwhole] at h
    exact .inl h
  · have hends : (writeStars bounds.text (w ++ c :: ignored)).takeWhile (· ≠ '-') =
        w ++ (writeStars bounds.text (c :: ignored)).takeWhile (· ≠ '-') := by
      have happend : writeStars bounds.text (w ++ c :: ignored) =
          writeStars bounds.text w ++ writeStars bounds.text (c :: ignored) := List.flatMap_append
      rw [happend, writeStars_of_not_mem hstar, takeWhile_append hdash]
    rw [hends] at h hnot
    have hne : w ≠ [] := by
      rintro rfl
      rcases hc with rfl | rfl
      · cases h
      · exact hnot (takeWhile_writeStars_star hmin ignored)
    have hdigits := (Text.isNumeral_iff.mp h).2
    exact .inr ⟨w, c, ignored, rfl, hc, Text.isNumeral_iff.mpr
      ⟨hne, fun d hd => hdigits d (List.mem_append_left _ hd)⟩⟩

end Stars

namespace Column
variable {column : Column} {raw text base stepText : Text} {resolved : Resolved}

/-- A name in any letter case. -/
def IsName (column : Column) (t : Text) : Prop :=
  (column.aliases?.bind fun table => table.lookup (t.flatMap Alias.lower)).isSome = true

instance (column : Column) : DecidablePred column.IsName :=
  fun _ => inferInstanceAs (Decidable (_ = true))

/-- Digits and names without anything between them. -/
inductive Word (column : Column) : Text → Prop
  | digit {c : Char} (hc : Text.isDigit c = true) : column.Word [c]
  | name {t : Text} (ht : column.IsName t) : column.Word t
  | append {t u : Text} (ht : column.Word t) (hu : column.Word u) : column.Word (t ++ u)

/-- The forms that are documented. -/
def documented (column : Column) : ItemGrammar where
  lead v := v = []
  number v := Text.isNumeral v = true ∨ column.IsName v
  step n := Text.isNumeral n = true

instance (column : Column) : DecidablePred column.documented.lead :=
  fun v => inferInstanceAs (Decidable (v = []))

instance (column : Column) : DecidablePred column.documented.number :=
  fun v => inferInstanceAs (Decidable (Text.isNumeral v = true ∨ column.IsName v))

instance (column : Column) : DecidablePred column.documented.step :=
  fun n => inferInstanceAs (Decidable (Text.isNumeral n = true))

/-- The documented forms after their parts have grown together. -/
def fused (column : Column) : ItemGrammar where
  lead v := v = [] ∨ column.Word v
  number := column.Word
  step := column.Word

/-- What is read as zero once names are replaced. -/
def IsZero (column : Column) (t : Text) : Prop :=
  ∃ zero, column.substitute t = .ok zero ∧ Text.isNumeral zero = true ∧ Text.value zero = 0

/-- The items that are accepted: those of the fused grammar, and zero with a minus sign, after which
a step is not looked at. -/
inductive Accepted (column : Column) : Text → Prop
  | item {t : Text} (ht : column.fused.OpenItem t) : column.Accepted t
  | minusZero {t : Text} (ht : column.IsZero t) : column.Accepted ('-' :: t)
  | minusZeroStepped {t : Text} (ht : column.IsZero t) (ignored : Text) :
      column.Accepted ('-' :: t ++ '/' :: ignored)

section Words

theorem word_of_isNumeral {t : Text} (ht : Text.isNumeral t = true) : column.Word t := by
  obtain ⟨hne, hdigits⟩ := Text.isNumeral_iff.mp ht
  induction t with
  | nil => exact absurd rfl hne
  | cons c rest ih =>
    obtain ⟨hc, hrest⟩ := List.forall_mem_cons.mp hdigits
    by_cases hempty : rest = []
    · exact hempty ▸ .digit hc
    · have hword := ih (Text.isNumeral_iff.mpr ⟨hempty, hrest⟩) hempty hrest
      exact .append (.digit hc) hword

theorem word_of_replaceNames {label : String} {table : AliasTable}
    (htable : column.aliases? = some table) {pieces : List Alias.Piece} (hne : pieces ≠ [])
    (h : replaceNames label table pieces = .ok text) (hdigits : ∀ c ∈ text, Text.isDigit c = true) :
    column.Word (pieces.flatMap Alias.Piece.text) := by
  induction pieces generalizing text with
  | nil => exact absurd rfl hne
  | cons piece rest ih =>
    obtain ⟨front, back, hfront, hback, rfl⟩ := replaceNames_cons_eq_ok_iff.mp h
    have hword : column.Word piece.text := by
      cases piece with
      | other c =>
        cases hfront
        exact .digit (hdigits c List.mem_cons_self)
      | name letters =>
        obtain ⟨n, hn, -⟩ := Option.map_eq_some_iff.mp hfront
        refine .name ?_
        rw [IsName, htable, Alias.Piece.text, Option.bind_some, hn]
        rfl
    have hrest : ∀ c ∈ back, Text.isDigit c = true :=
      fun c hc => hdigits c (List.mem_append_right front hc)
    by_cases hempty : rest = []
    · rw [hempty, List.flatMap_singleton]
      exact hword
    · exact .append hword (ih hempty hback hrest)

/-- What is rewritten as a number is made of digits and names. -/
theorem word_of_substitute (h : column.substitute raw = .ok text)
    (htext : Text.isNumeral text = true) : column.Word raw := by
  cases htable : column.aliases? with
  | none =>
    simp only [substitute, htable] at h
    cases h
    exact word_of_isNumeral htext
  | some table =>
    simp only [substitute, htable] at h
    obtain ⟨hne, hdigits⟩ := Text.isNumeral_iff.mp htext
    have hraw : (Alias.cut raw).flatMap Alias.Piece.text = raw := Alias.flatMap_cutFrom [] raw
    have hpieces : Alias.cut raw ≠ [] := by
      intro hnil
      rw [hnil] at h
      cases h
      exact hne rfl
    exact hraw ▸ word_of_replaceNames htable hpieces h hdigits

theorem accepted_of_documented {t : Text} (h : column.documented.Item t) : column.Accepted t := by
  have hnumber {v : Text} (hv : column.documented.number v) : column.Word v :=
    hv.elim word_of_isNumeral .name
  have hbase {u : Text} (hu : column.documented.Base u) : column.fused.Base u := by
    cases hu with
    | star hv => exact .star (.inl hv)
    | number hv => exact .number (hnumber hv)
    | range hv hw => exact .range (hnumber hv) (hnumber hw)
  cases h with
  | plain ht => exact .item (.plain (.closed (hbase ht)))
  | stepped ht hn => exact .item (.stepped (.closed (hbase ht)) (word_of_isNumeral hn))

end Words

section Resolution
variable {low high : Text} {v : Int} {values : List Int}

theorem scalar_eq_ok (h : column.scalar text = .ok v) :
    Text.isNumeral text = true ∨ ∃ t, text = '-' :: t ∧ Text.isNumeral t = true ∧
      v = -(Text.value t : Int) := by
  unfold scalar at h
  split at h
  next negative digits heq =>
  split at h
  · next hdigits =>
    obtain ⟨n, hn, hv⟩ := bind_eq_ok_iff.mp h
    obtain ⟨-, rfl⟩ := readNumber_eq_ok_iff.mp hn
    split at heq
    · cases heq
      cases hv
      exact .inr ⟨digits, rfl, hdigits, rfl⟩
    · cases heq
      exact .inl hdigits
  · cases h

theorem isNumeral_of_step {n : Nat} (h : column.step stepText = .ok n) :
    Text.isNumeral stepText = true := by
  unfold step at h
  split at h
  · assumption
  · cases h

theorem resolveEnds_eq_ok (h : column.resolveEnds text low high stepText = .ok values) :
    (Text.isNumeral low = true ∧ Text.isNumeral high = true ∧ Text.isNumeral stepText = true) ∧
      column.bounds.min ≤ Text.value low ∧ Text.value low < Text.value high ∧
        (Text.value high : Int) ≤ column.bounds.max := by
  simp only [resolveEnds] at h
  split at h
  · cases h
  next hdigits =>
  obtain ⟨start, hstart, h⟩ := bind_eq_ok_iff.mp h
  obtain ⟨stop, hstop, h⟩ := bind_eq_ok_iff.mp h
  obtain ⟨-, rfl⟩ := readNumber_eq_ok_iff.mp hstart
  obtain ⟨-, rfl⟩ := readNumber_eq_ok_iff.mp hstop
  split at h
  · cases h
  next hbounds =>
  split at h
  · cases h
  next hascends =>
  obtain ⟨n, hn, -⟩ := bind_eq_ok_iff.mp h
  simp only [Bool.not_eq_true', Bool.and_eq_false_iff, not_or, Bool.not_eq_false] at hdigits
  simp only [Bool.or_eq_true, decide_eq_true_eq, not_or, Int.not_lt] at hbounds
  exact ⟨⟨hdigits.1, hdigits.2, isNumeral_of_step hn⟩, hbounds.1, Nat.lt_of_not_le hascends,
    hbounds.2⟩

/-- Zero is the only number within the bounds that can be written with a minus sign. -/
theorem value_of_minus (hmin : 0 ≤ column.bounds.min) {t : Text}
    (h : column.scalar ('-' :: t) = .ok v) (hv : column.bounds.Contains v) :
    Text.isNumeral t = true ∧ Text.value t = 0 := by
  rcases scalar_eq_ok h with hnumber | ⟨digits, heq, hdigits, rfl⟩
  · exact absurd List.mem_cons_self (Text.not_mem_of_isNumeral (c := '-') hnumber rfl)
  · cases heq
    have hlow := hv.1
    exact ⟨hdigits, by omega⟩

/-- A star may be followed by a dash only: a digit more would lead beyond the greatest value. -/
theorem base_of_star (hmin : 0 ≤ column.bounds.min) (hmax : 0 < column.bounds.max)
    {lead rest : Text} (hdash : '-' ∉ lead) (hstar : '*' ∉ lead) (hslash : '/' ∉ rest)
    (h : column.resolveRange (writeStars column.bounds.text (lead ++ '*' :: rest)) stepText =
      .ok resolved) :
    ItemGrammar.digits.OpenBase (lead ++ '*' :: rest) ∧ Text.isNumeral stepText = true := by
  have hleast := Text.isNumeral_ofInt hmin
  have hgreatest := Text.isNumeral_ofInt (Int.le_of_lt hmax)
  have hlow : '-' ∉ lead ++ Text.ofInt column.bounds.min := by
    rw [List.mem_append, not_or]
    exact ⟨hdash, Text.not_mem_of_isNumeral hleast rfl⟩
  have hne : lead ++ Text.ofInt column.bounds.min ≠ [] :=
    List.append_ne_nil_of_right_ne_nil lead (Text.isNumeral_iff.mp hleast).1
  rw [writeStars_append_star, writeStars_of_not_mem hstar, ← List.append_assoc,
    resolveRange_cut hne hlow,
    takeWhile_append (Text.not_mem_of_isNumeral hgreatest rfl)] at h
  obtain ⟨values, hvalues, rfl⟩ := map_eq_ok_iff.mp h
  obtain ⟨⟨hlowDigits, -, hstep⟩, -, -, hle⟩ := resolveEnds_eq_ok hvalues
  have hnothing : (writeStars column.bounds.text rest).takeWhile (· ≠ '-') = [] := by
    by_contra hmore
    have hten := Text.ten_mul_value_le (Text.ofInt column.bounds.max) hmore
    have hvalue := Text.value_ofInt (Int.le_of_lt hmax)
    omega
  have hlead : lead = [] ∨ Text.isNumeral lead = true := by
    by_cases hempty : lead = []
    · exact .inl hempty
    · have hdigits := (Text.isNumeral_iff.mp hlowDigits).2
      exact .inr (Text.isNumeral_iff.mpr
        ⟨hempty, fun c hc => hdigits c (List.mem_append_left _ hc)⟩)
  rcases eq_nil_or_dash_of_takeWhile hmin hnothing with rfl | ⟨ignored, rfl⟩
  · exact ⟨.closed (.star hlead), hstep⟩
  · exact ⟨.star hlead fun hmem => hslash (List.mem_cons_of_mem '-' hmem), hstep⟩

/-- The upper end of a range exceeds the lower one, so it is not the least value that a star behind
it brings. -/
theorem base_of_dash (hmin : 0 ≤ column.bounds.min) {low rest : Text} (hne : low ≠ [])
    (hdash : '-' ∉ low) (hstar : '*' ∉ low) (hslash : '/' ∉ rest)
    (h : column.resolveRange (writeStars column.bounds.text (low ++ '-' :: rest)) stepText =
      .ok resolved) :
    ItemGrammar.digits.OpenBase (low ++ '-' :: rest) ∧ Text.isNumeral stepText = true := by
  have hwritten : writeStars column.bounds.text (low ++ '-' :: rest) =
      writeStars column.bounds.text low ++ '-' :: writeStars column.bounds.text rest :=
    List.flatMap_append
  rw [hwritten, writeStars_of_not_mem hstar, resolveRange_cut hne hdash] at h
  obtain ⟨values, hvalues, rfl⟩ := map_eq_ok_iff.mp h
  obtain ⟨⟨hlow, hhigh, hstep⟩, hleast, hascends, -⟩ := resolveEnds_eq_ok hvalues
  have hnot : (writeStars column.bounds.text rest).takeWhile (· ≠ '-') ≠
      Text.ofInt column.bounds.min := by
    intro heq
    have hvalue := Text.value_ofInt hmin
    rw [heq] at hascends
    omega
  rcases upper_of_takeWhile hmin hhigh hnot with hrest | ⟨w, c, ignored, rfl, hc, hw⟩
  · exact ⟨.closed (.range hlow hrest), hstep⟩
  · have hignored : '/' ∉ ignored :=
      fun hmem => hslash (List.mem_append_right w (List.mem_cons_of_mem c hmem))
    exact ⟨.range hlow hw hc hignored, hstep⟩

/-- The base of an item is a number, a range whose step is a number, or zero with a minus sign. -/
theorem base_of_resolveRange (hmin : 0 ≤ column.bounds.min) (hmax : 0 < column.bounds.max)
    (hslash : '/' ∉ base)
    (h : column.resolveRange (writeStars column.bounds.text base) stepText = .ok resolved)
    (hwithin : ∀ v ∈ resolved.written, column.bounds.Contains v) :
    Text.isNumeral base = true ∨
      (ItemGrammar.digits.OpenBase base ∧ Text.isNumeral stepText = true) ∨
        ∃ t, base = '-' :: t ∧ Text.isNumeral t = true ∧ Text.value t = 0 := by
  rcases exists_first_dash base with ⟨hdash, hstar⟩ | ⟨front, c, rest, rfl, hc, hdash, hstar⟩
  · rw [writeStars_of_not_mem hstar, resolveRange, Text.cut?_of_not_mem hdash] at h
    obtain ⟨v, hv, rfl⟩ := map_eq_ok_iff.mp h
    rcases scalar_eq_ok hv with hnumber | ⟨t, rfl, -, -⟩
    · exact .inl hnumber
    · exact absurd List.mem_cons_self hdash
  have hrest : '/' ∉ rest :=
    fun hmem => hslash (List.mem_append_right front (List.mem_cons_of_mem c hmem))
  rcases hc with rfl | rfl
  · by_cases hempty : front = []
    · subst hempty
      have hsingle : Resolved.single <$> column.scalar
          ('-' :: writeStars column.bounds.text rest) = .ok resolved := by
        simpa [resolveRange, Text.cut?, writeStars] using h
      obtain ⟨v, hv, rfl⟩ := map_eq_ok_iff.mp hsingle
      have hzero := value_of_minus hmin hv (hwithin v List.mem_cons_self)
      rw [writeStars_of_not_mem (star_not_mem_of_isNumeral hzero.1)] at hzero
      exact .inr (.inr ⟨rest, rfl, hzero⟩)
    · exact .inr (.inl (base_of_dash hmin hempty hdash hstar hrest h))
  · exact .inr (.inl (base_of_star hmin hmax hdash hstar hrest h))

theorem step_of_writeStars {steps : Text}
    (h : Text.isNumeral ((Text.pieces '/' (writeStars column.bounds.text steps)).getLastD []) =
      true) : Text.isNumeral ((Text.pieces '/' steps).getLastD []) = true := by
  have hpieces : Text.pieces '/' (writeStars column.bounds.text steps) =
      (Text.pieces '/' steps).map (writeStars column.bounds.text) :=
    Text.pieces_flatMap rfl fun piece hpiece =>
      slash_not_mem_writeStars (Text.not_mem_of_mem_pieces hpiece)
  have hlast : ((Text.pieces '/' steps).map (writeStars column.bounds.text)).getLastD [] =
      writeStars column.bounds.text ((Text.pieces '/' steps).getLastD []) := by
    change (List.map _ _).getLastD (writeStars column.bounds.text []) = _
    exact List.getLastD_map
  rw [hpieces, hlast] at h
  rw [writeStars_of_not_mem (star_not_mem_of_isNumeral h)] at h
  exact h

/-- An item that resolves has a form made of digits, its last step counting, or is zero with a
minus sign. -/
theorem item_of_resolve (hmin : 0 ≤ column.bounds.min) (hmax : 0 < column.bounds.max)
    (h : column.resolve (writeStars column.bounds.text text) = .ok resolved)
    (hwithin : ∀ v ∈ resolved.written, column.bounds.Contains v) :
    ItemGrammar.digits.OpenBase text ∨
      (∃ base steps, text = base ++ '/' :: steps ∧ '/' ∉ base ∧
        ItemGrammar.digits.OpenBase base ∧
          Text.isNumeral ((Text.pieces '/' steps).getLastD []) = true) ∨
      ∃ t, Text.isNumeral t = true ∧ Text.value t = 0 ∧
        (text = '-' :: t ∨ ∃ ignored, text = '-' :: t ++ '/' :: ignored) := by
  by_cases hslash : '/' ∈ text
  · obtain ⟨base, steps, rfl, hbase⟩ := List.eq_append_cons_of_mem hslash
    have hexpand : writeStars column.bounds.text (base ++ '/' :: steps) =
        writeStars column.bounds.text base ++ '/' :: writeStars column.bounds.text steps :=
      List.flatMap_append
    rw [hexpand, resolve, Text.cut?_append (slash_not_mem_writeStars hbase)] at h
    dsimp only at h
    by_cases hdash : '-' ∈ writeStars column.bounds.text base
    · rw [steppedBase_range hdash] at h
      rcases base_of_resolveRange hmin hmax hbase h hwithin with hdigits | ⟨hopen, hstep⟩ | hzero
      · have hstar : '*' ∉ base := Text.not_mem_of_isNumeral hdigits rfl
        rw [writeStars_of_not_mem hstar] at hdash
        exact absurd hdash (Text.not_mem_of_isNumeral hdigits rfl)
      · exact .inr (.inl ⟨base, steps, rfl, hbase, hopen, step_of_writeStars hstep⟩)
      · obtain ⟨t, rfl, ht, hvalue⟩ := hzero
        exact .inr (.inr ⟨t, ht, hvalue, .inr ⟨steps, rfl⟩⟩)
    · have hstar : '*' ∉ base := fun hstar => hdash (dash_mem_writeStars hstar)
      rw [writeStars_of_not_mem hstar] at h hdash
      by_cases hempty : base = []
      · subst hempty
        cases h
      · rw [steppedBase_number hempty hdash] at h
        have hgreatest := Text.isNumeral_ofInt (Int.le_of_lt hmax)
        rw [resolveRange_dash hempty hdash (Text.not_mem_of_isNumeral hgreatest rfl)] at h
        obtain ⟨values, hvalues, rfl⟩ := map_eq_ok_iff.mp h
        obtain ⟨⟨hdigits, -, hstep⟩, -⟩ := resolveEnds_eq_ok hvalues
        exact .inr (.inl ⟨base, steps, rfl, hbase, .closed (.number hdigits),
          step_of_writeStars hstep⟩)
  · rw [resolve_unstepped (slash_not_mem_writeStars hslash)] at h
    rcases base_of_resolveRange hmin hmax hslash h hwithin with hdigits | ⟨hopen, -⟩ | hzero
    · exact .inl (.closed (.number hdigits))
    · exact .inl hopen
    · obtain ⟨t, rfl, ht, hvalue⟩ := hzero
      exact .inr (.inr ⟨t, ht, hvalue, .inl rfl⟩)

end Resolution
section Lifting

theorem fused_of_base (h : column.substitute raw = .ok text) (ht : ItemGrammar.digits.Base text) :
    column.fused.Base raw := by
  cases ht with
  | number ht => exact .number (word_of_substitute h ht)
  | @star v hv =>
    have hstar : '*' ∉ v := hv.elim (fun he => he ▸ List.not_mem_nil)
      fun hdigits => Text.not_mem_of_isNumeral hdigits rfl
    obtain ⟨front, back, rfl, hfront, hback⟩ := substitute_cut rfl rfl hstar h
    obtain rfl := substitute_eq_ok_nil hback
    refine .star (hv.imp (fun he => ?_) fun hdigits => word_of_substitute hfront hdigits)
    subst he
    exact substitute_eq_ok_nil hfront
  | range hv hw =>
    obtain ⟨front, back, rfl, hfront, hback⟩ :=
      substitute_cut rfl rfl (Text.not_mem_of_isNumeral hv rfl) h
    exact .range (word_of_substitute hfront hv) (word_of_substitute hback hw)

/-- A minus sign at the beginning is written as such. -/
theorem substitute_minus (h : column.substitute raw = .ok ('-' :: text)) :
    ∃ t, raw = '-' :: t ∧ column.substitute t = .ok text := by
  have hcut : column.substitute raw = .ok ([] ++ '-' :: text) := h
  obtain ⟨front, back, rfl, hfront, hback⟩ := substitute_cut rfl rfl List.not_mem_nil hcut
  obtain rfl := substitute_eq_ok_nil hfront
  exact ⟨back, rfl, hback⟩

theorem fused_of_openBase (h : column.substitute raw = .ok text)
    (ht : ItemGrammar.digits.OpenBase text) : column.fused.OpenBase raw := by
  cases ht with
  | closed ht => exact .closed (fused_of_base h ht)
  | @star v ignored hv hslash =>
    have hstar : '*' ∉ v := hv.elim (fun he => he ▸ List.not_mem_nil)
      fun hdigits => Text.not_mem_of_isNumeral hdigits rfl
    obtain ⟨front, back, rfl, hfront, hback⟩ := substitute_cut rfl rfl hstar h
    obtain ⟨rest, rfl, hrest⟩ := substitute_minus hback
    refine .star (hv.imp (fun he => ?_) fun hdigits => word_of_substitute hfront hdigits)
      (mt (sign_mem_iff_of_substitute rfl rfl hrest).mp hslash)
    subst he
    exact substitute_eq_ok_nil hfront
  | @range v w ignored c hv hw hc hslash =>
    obtain ⟨front, back, rfl, hfront, hback⟩ :=
      substitute_cut rfl rfl (Text.not_mem_of_isNumeral hv rfl) h
    have hcut : Alias.isLetter c = false ∧ c.isDigit = false ∧ Text.isDigit c = false := by
      rcases hc with rfl | rfl
      · exact ⟨rfl, rfl, rfl⟩
      · exact ⟨rfl, rfl, rfl⟩
    obtain ⟨upper, rest, rfl, hupper, hrest⟩ :=
      substitute_cut hcut.1 hcut.2.1 (Text.not_mem_of_isNumeral hw hcut.2.2) hback
    exact .range (word_of_substitute hfront hv) (word_of_substitute hupper hw) hc
      (mt (sign_mem_iff_of_substitute rfl rfl hrest).mp hslash)

theorem fused_of_steps {base steps : Text} (hbase : '/' ∉ base)
    (h : column.substitute raw = .ok (base ++ '/' :: steps))
    (hopen : ItemGrammar.digits.OpenBase base)
    (hstep : Text.isNumeral ((Text.pieces '/' steps).getLastD []) = true) :
    column.fused.OpenItem raw := by
  obtain ⟨front, back, rfl, hfront, hback⟩ := substitute_cut rfl rfl hbase h
  obtain ⟨last, hlast, hrewritten⟩ := substitute_getLast? (c := '/') rfl rfl hback
  have hword := word_of_substitute hrewritten hstep
  rcases Text.eq_or_append_of_getLast? hlast with rfl | ⟨ignored, rfl⟩
  · exact .stepped (fused_of_openBase hfront hopen) hword
  · exact .restepped (fused_of_openBase hfront hopen) ignored hword

end Lifting

theorem accepted_of_compile (hmin : 0 ≤ column.bounds.min) (hmax : 0 < column.bounds.max)
    {values : List Int} (h : column.compile raw = .ok values) :
    ∀ item ∈ Text.pieces ',' raw, column.Accepted item := by
  intro item hitem
  obtain ⟨text, resolved, hsubstitute, -, hresolve, hwithin⟩ := resolve_of_compile h hitem
  rcases item_of_resolve hmin hmax hresolve hwithin with
    hopen | ⟨base, steps, rfl, hbase, hopen, hstep⟩ | ⟨t, ht, hzero, hform⟩
  · exact .item (.plain (fused_of_openBase hsubstitute hopen))
  · exact .item (fused_of_steps hbase hsubstitute hopen hstep)
  · rcases hform with rfl | ⟨ignored, rfl⟩
    · obtain ⟨u, rfl, hu⟩ := substitute_minus hsubstitute
      exact .minusZero ⟨t, hu, ht, hzero⟩
    · obtain ⟨u, rfl, hu⟩ := substitute_minus hsubstitute
      obtain ⟨front, back, rfl, hfront, hback⟩ :=
        substitute_cut rfl rfl (Text.not_mem_of_isNumeral ht rfl) hu
      exact .minusZeroStepped ⟨t, hfront, ht, hzero⟩ back

end Column

namespace Field
variable {f : Field} {raw : Text} {values : List Int}

end Field
end Crontab
