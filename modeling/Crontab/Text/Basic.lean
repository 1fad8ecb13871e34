/-! # Text

What the program reads is a list of characters; what it says is a `String`.
This file cuts text at a separator and joins it again.
-/
namespace Crontab

/-- Characters in reading order. -/
abbrev Text := List Char

namespace Text

/-- The pieces between separators. There is one more piece than there are separators. -/
def pieces (separator : Char) : Text → List Text
  | [] => [[]]
  | c :: rest =>
    if c = separator then [] :: pieces separator rest
    else
      match pieces separator rest with
      | [] => [[c]]
      | piece :: more => (c :: piece) :: more

/-- The pieces with one separator between neighbours. -/
def joined (separator : Char) : List Text → Text
  | [] => []
  | [piece] => piece
  | piece :: more => piece ++ separator :: joined separator more

/-- Cuts at the first separator; `none` where there is no separator. -/
def cut? (separator : Char) : Text → Option (Text × Text)
  | [] => none
  | c :: rest =>
    if c = separator then some ([], rest)
    else (cut? separator rest).map fun (before, after) => (c :: before, after)

def after? (start : Text) (t : Text) : Option Text :=
  if start.isPrefixOf t then some (t.drop start.length) else none

theorem joined_cons_cons (separator : Char) (piece next : Text) (more : List Text) :
    joined separator (piece :: next :: more) = piece ++ separator :: joined separator (next :: more) :=
  rfl

theorem pieces_ne_nil (separator : Char) (t : Text) : pieces separator t ≠ [] := by
  cases t with
  | nil => simp [pieces]
  | cons c rest =>
    by_cases h : c = separator
    · simp [pieces, h]
    · simp only [pieces, if_neg h]
      split <;> simp

theorem joined_pieces (separator : Char) (t : Text) :
    joined separator (pieces separator t) = t := by
  induction t with
  | nil => rfl
  | cons c rest ih =>
    have hne := pieces_ne_nil separator rest
    by_cases h : c = separator
    · subst h
      simp only [pieces, if_true]
      cases hp : pieces c rest with
      | nil => exact absurd hp hne
      | cons piece more => simp [joined, ← hp, ih]
    · simp only [pieces, if_neg h]
      cases hp : pieces separator rest with
      | nil => exact absurd hp hne
      | cons piece more =>
        cases more with
        | nil => simp_all [joined]
        | cons next others => simp_all [joined]

theorem pieces_of_not_mem {separator : Char} {t : Text} (h : separator ∉ t) :
    pieces separator t = [t] := by
  induction t with
  | nil => rfl
  | cons c rest ih =>
    simp only [List.mem_cons, not_or] at h
    obtain ⟨hc, hrest⟩ := h
    simp only [pieces, if_neg (Ne.symm hc), ih hrest]

theorem pieces_append {separator : Char} {t : Text} (h : separator ∉ t) (rest : Text) :
    pieces separator (t ++ separator :: rest) = t :: pieces separator rest := by
  induction t with
  | nil => simp only [List.nil_append, pieces, if_true]
  | cons c front ih =>
    simp only [List.mem_cons, not_or] at h
    obtain ⟨hc, hfront⟩ := h
    simp only [List.cons_append, pieces, if_neg (Ne.symm hc), ih hfront]

theorem pieces_joined {separator : Char} {ts : List Text} (hne : ts ≠ [])
    (h : ∀ t ∈ ts, separator ∉ t) : pieces separator (joined separator ts) = ts := by
  induction ts with
  | nil => exact absurd rfl hne
  | cons t rest ih =>
    cases rest with
    | nil => exact pieces_of_not_mem (h t List.mem_cons_self)
    | cons next others =>
      rw [joined_cons_cons, pieces_append (h t List.mem_cons_self),
        ih (List.cons_ne_nil next others) fun u hu => h u (List.mem_cons_of_mem t hu)]

theorem joined_concat {separator : Char} {ts : List Text} (hne : ts ≠ []) (last : Text) :
    joined separator (ts ++ [last]) = joined separator ts ++ separator :: last := by
  induction ts with
  | nil => exact absurd rfl hne
  | cons t rest ih =>
    cases rest with
    | nil => rfl
    | cons next others =>
      rw [List.cons_append, List.cons_append, joined_cons_cons, joined_cons_cons,
        ← List.cons_append, ih (List.cons_ne_nil next others), List.append_assoc, List.cons_append]

/-- What stands behind the last separator. -/
theorem eq_or_append_of_getLast? {separator : Char} {t last : Text}
    (h : (pieces separator t).getLast? = some last) :
    t = last ∨ ∃ front, t = front ++ separator :: last := by
  obtain ⟨others, hpieces⟩ := List.getLast?_eq_some_iff.mp h
  have ht := joined_pieces separator t
  rw [hpieces] at ht
  by_cases hne : others = []
  · subst hne
    exact .inl ht.symm
  · rw [joined_concat hne] at ht
    exact .inr ⟨_, ht.symm⟩

theorem mem_joined {separator c : Char} {ts : List Text} (h : c ∈ joined separator ts) :
    c = separator ∨ ∃ t ∈ ts, c ∈ t := by
  induction ts with
  | nil => cases h
  | cons t rest ih =>
    cases rest with
    | nil => exact .inr ⟨t, List.mem_cons_self, h⟩
    | cons next others =>
      rw [joined_cons_cons, List.mem_append, List.mem_cons] at h
      rcases h with h | h | h
      · exact .inr ⟨t, List.mem_cons_self, h⟩
      · exact .inl h
      · exact (ih h).imp_right fun ⟨u, hu, hc⟩ => ⟨u, List.mem_cons_of_mem t hu, hc⟩

theorem joined_ne_nil {separator : Char} {ts : List Text} (hne : ts ≠ []) (h : ∀ t ∈ ts, t ≠ []) :
    joined separator ts ≠ [] := by
  cases ts with
  | nil => exact absurd rfl hne
  | cons t rest =>
    have ht := h t List.mem_cons_self
    cases rest with
    | nil => exact ht
    | cons next others => exact List.append_ne_nil_of_left_ne_nil ht _

/-- A replacement that leaves the separator alone works piece by piece. -/
theorem flatMap_joined {separator : Char} {f : Char → Text} (hf : f separator = [separator])
    (ts : List Text) :
    (joined separator ts).flatMap f = joined separator (ts.map fun t => t.flatMap f) := by
  induction ts with
  | nil => rfl
  | cons t rest ih =>
    cases rest with
    | nil => rfl
    | cons next others =>
      simp only [List.map_cons] at ih ⊢
      rw [joined_cons_cons, joined_cons_cons, List.flatMap_append, List.flatMap_cons, ih, hf]
      rfl

/-- A replacement that makes no separator works between the separators. -/
theorem pieces_flatMap {separator : Char} {f : Char → Text} (hf : f separator = [separator])
    {t : Text} (h : ∀ piece ∈ pieces separator t, separator ∉ piece.flatMap f) :
    pieces separator (t.flatMap f) = (pieces separator t).map fun piece => piece.flatMap f := by
  have hne : (pieces separator t).map (fun piece => piece.flatMap f) ≠ [] :=
    fun hnil => pieces_ne_nil separator t (List.map_eq_nil_iff.mp hnil)
  calc pieces separator (t.flatMap f)
      = pieces separator ((joined separator (pieces separator t)).flatMap f) := by
        rw [joined_pieces]
    _ = pieces separator (joined separator
          ((pieces separator t).map fun piece => piece.flatMap f)) := by
        rw [flatMap_joined hf]
    _ = (pieces separator t).map fun piece => piece.flatMap f :=
        pieces_joined hne (List.forall_mem_map.mpr h)

theorem sublist_of_mem_pieces {separator : Char} {t piece : Text}
    (h : piece ∈ pieces separator t) : piece.Sublist t := by
  induction t generalizing piece with
  | nil =>
    rw [pieces, List.mem_singleton] at h
    exact h ▸ List.nil_sublist []
  | cons c rest ih =>
    by_cases hc : c = separator
    · simp only [pieces, if_pos hc] at h
      rcases List.mem_cons.mp h with rfl | h
      · exact List.nil_sublist _
      · exact (ih h).cons c
    · simp only [pieces, if_neg hc] at h
      cases hp : pieces separator rest with
      | nil => exact absurd hp (pieces_ne_nil separator rest)
      | cons first more =>
        rw [hp] at h
        rcases List.mem_cons.mp h with rfl | h
        · exact (ih (hp ▸ List.mem_cons_self)).cons_cons c
        · exact (ih (hp ▸ List.mem_cons_of_mem first h)).cons c

theorem not_mem_of_mem_pieces {separator : Char} {t piece : Text}
    (h : piece ∈ pieces separator t) : separator ∉ piece := by
  induction t generalizing piece with
  | nil =>
    rw [pieces, List.mem_singleton] at h
    exact h ▸ List.not_mem_nil
  | cons c rest ih =>
    by_cases hc : c = separator
    · simp only [pieces, if_pos hc] at h
      rcases List.mem_cons.mp h with rfl | h
      · exact List.not_mem_nil
      · exact ih h
    · simp only [pieces, if_neg hc] at h
      cases hp : pieces separator rest with
      | nil => exact absurd hp (pieces_ne_nil separator rest)
      | cons first more =>
        rw [hp] at h
        rcases List.mem_cons.mp h with rfl | h
        · have hfirst := ih (hp ▸ List.mem_cons_self)
          simp only [List.mem_cons, not_or]
          exact ⟨Ne.symm hc, hfirst⟩
        · exact ih (hp ▸ List.mem_cons_of_mem first h)

theorem exists_split_iff {c : Char} {t : Text} {p : Text → Text → Prop} :
    (∃ front back, t = front ++ c :: back ∧ p front back) ↔
      ∃ k < t.length, t[k]? = some c ∧ p (t.take k) (t.drop (k + 1)) := by
  constructor
  · rintro ⟨front, back, rfl, hp⟩
    refine ⟨front.length, by simp, by simp, ?_⟩
    have hback : (front ++ c :: back).drop (front.length + 1) = back := by simp
    rw [List.take_left, hback]
    exact hp
  · rintro ⟨k, hk, hc, hp⟩
    obtain ⟨_, rfl⟩ := List.getElem?_eq_some_iff.mp hc
    refine ⟨t.take k, t.drop (k + 1), ?_, hp⟩
    rw [← List.drop_eq_getElem_cons hk, List.take_append_drop]

theorem cut?_of_not_mem {separator : Char} {t : Text} (h : separator ∉ t) :
    cut? separator t = none := by
  induction t with
  | nil => rfl
  | cons c rest ih =>
    simp only [List.mem_cons, not_or] at h
    obtain ⟨hc, hrest⟩ := h
    simp only [cut?, if_neg (Ne.symm hc), ih hrest, Option.map_none]

theorem cut?_append {separator : Char} {t : Text} (h : separator ∉ t) (rest : Text) :
    cut? separator (t ++ separator :: rest) = some (t, rest) := by
  induction t with
  | nil => simp only [List.nil_append, cut?, if_true]
  | cons c front ih =>
    simp only [List.mem_cons, not_or] at h
    obtain ⟨hc, hfront⟩ := h
    simp only [List.cons_append, cut?, if_neg (Ne.symm hc), ih hfront, Option.map_some]

theorem cut?_eq_some {separator : Char} {t before after : Text}
    (h : cut? separator t = some (before, after)) :
    t = before ++ separator :: after ∧ separator ∉ before := by
  induction t generalizing before with
  | nil => cases h
  | cons c rest ih =>
    by_cases hc : c = separator
    · simp only [cut?, if_pos hc, Option.some.injEq, Prod.mk.injEq] at h
      obtain ⟨rfl, rfl⟩ := h
      exact ⟨by rw [hc]; rfl, List.not_mem_nil⟩
    · simp only [cut?, if_neg hc, Option.map_eq_some_iff, Prod.mk.injEq] at h
      obtain ⟨⟨front, back⟩, hcut, rfl, rfl⟩ := h
      obtain ⟨hrest, hfront⟩ := ih hcut
      refine ⟨by rw [hrest]; rfl, ?_⟩
      simp only [List.mem_cons, not_or]
      exact ⟨Ne.symm hc, hfront⟩

end Text
end Crontab
