import Crontab.Settings.Environment

/-! # Replacing references

A reference is `${NAME}` with one or more word characters. Main statement: a text
may be cut at any of its references, and what stands before it and after it is
replaced apart. So the text of a variable is never searched, and variables that
are not referred to play no part.
-/
namespace Crontab

namespace Environment
variable {env other : Environment} {t u before after name rest value : Text} {unset : List Text}

/-! References in a text. -/

/-- One or more word characters. -/
def IsName (name : Text) : Prop :=
  name ≠ [] ∧ name.all Text.isWordCharacter = true

instance (name : Text) : Decidable (IsName name) :=
  inferInstanceAs (Decidable (_ ∧ _))

/-- A reference to a variable, as it stands in a text. -/
def written (name : Text) : Text :=
  (Piece.reference name).written

@[simp] theorem length_written (name : Text) : (written name).length = name.length + 3 := by
  simp [written, Piece.written]

/-- The text holds a reference to the variable, at any place. -/
def Mentions (t name : Text) : Prop :=
  IsName name ∧ written name <:+: t

instance (t name : Text) : Decidable (Mentions t name) :=
  inferInstanceAs (Decidable (_ ∧ _))

theorem Mentions.append_left (h : Mentions t name) (before : Text) :
    Mentions (before ++ t) name := by
  obtain ⟨hname, front, back, rfl⟩ := h
  exact ⟨hname, before ++ front, back, by simp⟩

theorem Mentions.append_right (h : Mentions t name) (after : Text) :
    Mentions (t ++ after) name := by
  obtain ⟨hname, front, back, rfl⟩ := h
  exact ⟨hname, front, back ++ after, by simp⟩

theorem mem_of_mentions (h : Mentions t name) : '$' ∈ t ∧ '\x7d' ∈ t := by
  obtain ⟨-, before, after, rfl⟩ := h
  simp [written, Piece.written]

theorem not_mem_of_isName {c : Char} (hname : IsName name) (hc : Text.isWordCharacter c = false) :
    c ∉ name := by
  intro hmem
  rw [List.all_eq_true.mp hname.2 c hmem] at hc
  cases hc

theorem reference?_eq_some_iff :
    reference? t = some (name, rest) ↔ IsName name ∧ t = written name ++ rest := by
  constructor
  · intro h
    unfold reference? at h
    split at h
    · rename_i s
      simp only at h
      split at h
      · next tail hdrop =>
        split at h
        · cases h
        · next hne =>
          cases h
          have hsplit := List.takeWhile_append_dropWhile (p := Text.isWordCharacter) (l := s)
          rw [hdrop] at hsplit
          refine ⟨⟨by simpa using hne, List.all_takeWhile⟩, ?_⟩
          simp [written, Piece.written, hsplit]
      · cases h
    · cases h
  · rintro ⟨⟨hne, hword⟩, rfl⟩
    rw [List.all_eq_true] at hword
    have hbrace : ¬ Text.isWordCharacter '\x7d' = true := by decide
    have htake : (name ++ '\x7d' :: rest).takeWhile Text.isWordCharacter = name := by
      rw [List.takeWhile_append_of_pos hword, List.takeWhile_cons_of_neg hbrace, List.append_nil]
    have hdrop : (name ++ '\x7d' :: rest).dropWhile Text.isWordCharacter = '\x7d' :: rest := by
      rw [List.dropWhile_append_of_pos hword, List.dropWhile_cons_of_neg hbrace]
    simp [reference?, written, Piece.written, htake, hdrop, hne]

/-- A reference does not reach over a dollar sign behind its first character. -/
theorem reference?_append_dollar (hne : t ≠ []) (u : Text) :
    reference? (t ++ '$' :: u) =
      (reference? t).map fun (name, rest) => (name, rest ++ '$' :: u) := by
  cases h : reference? t with
  | some found =>
    obtain ⟨name, rest⟩ := found
    obtain ⟨hname, rfl⟩ := reference?_eq_some_iff.mp h
    exact reference?_eq_some_iff.mpr ⟨hname, List.append_assoc _ _ _⟩
  | none =>
    rw [Option.map_none, Option.eq_none_iff_forall_ne_some]
    rintro ⟨name, rest⟩ hlong
    obtain ⟨hname, heq⟩ := reference?_eq_some_iff.mp hlong
    obtain ⟨c, t, rfl⟩ := List.exists_cons_of_ne_nil hne
    have hdollar : '$' ∉ name := not_mem_of_isName hname (by decide)
    rcases List.append_eq_append_iff.mp heq with ⟨middle, hwritten, hrest⟩ | ⟨middle, ht, -⟩
    · cases middle with
      | nil =>
        rw [List.append_nil] at hwritten
        have hshort := reference?_eq_some_iff.mpr ⟨hname, (List.append_nil (written name)).symm⟩
        rw [hwritten, h] at hshort
        cases hshort
      | cons d middle =>
        -- the reference would hold the dollar sign behind its first character
        obtain ⟨rfl, -⟩ := List.cons.inj hrest
        simp [written, Piece.written] at hwritten
        have hmem : '$' ∈ '\x7b' :: (name ++ ['\x7d']) := by
          rw [hwritten.2]
          simp
        simp [hdollar] at hmem
    · have hshort := reference?_eq_some_iff.mpr ⟨hname, ht⟩
      rw [h] at hshort
      cases hshort

theorem pieces_of_reference (h : reference? t = some (name, rest)) :
    pieces t = .reference name :: pieces rest := by
  obtain ⟨c, t, rfl⟩ : ∃ c u, t = c :: u := by
    obtain ⟨-, rfl⟩ := reference?_eq_some_iff.mp h
    exact ⟨_, _, rfl⟩
  rw [pieces]
  split
  · next heq =>
    rw [h] at heq
    cases heq
    rfl
  · next heq =>
    rw [h] at heq
    cases heq

theorem pieces_of_literal {c : Char} (h : reference? (c :: rest) = none) :
    pieces (c :: rest) = .literal c :: pieces rest := by
  rw [pieces]
  split
  · next heq =>
    rw [h] at heq
    cases heq
  · rfl

theorem pieces_append_dollar (t u : Text) :
    pieces (t ++ '$' :: u) = pieces t ++ pieces ('$' :: u) := by
  fun_induction pieces t with
  | case1 => rfl
  | case2 c rest name after h ih =>
    have hlong := reference?_append_dollar (List.cons_ne_nil c rest) u
    rw [h] at hlong
    rw [pieces_of_reference hlong, ih]
    rfl
  | case3 c rest h ih =>
    have hlong := reference?_append_dollar (List.cons_ne_nil c rest) u
    rw [h, List.cons_append] at hlong
    rw [List.cons_append, pieces_of_literal hlong, ih]
    rfl

theorem pieces_cut (hname : IsName name) (before after : Text) :
    pieces (before ++ written name ++ after) =
      pieces before ++ .reference name :: pieces after := by
  have hfirst : reference? (written name ++ after) = some (name, after) :=
    reference?_eq_some_iff.mpr ⟨hname, rfl⟩
  rw [List.append_assoc, ← pieces_of_reference hfirst]
  exact pieces_append_dollar before _

theorem pieces_of_not_mentions (h : ∀ name, ¬ Mentions t name) :
    pieces t = t.map .literal := by
  fun_induction pieces t with
  | case1 => rfl
  | case2 c rest name after hreference ih =>
    obtain ⟨hname, heq⟩ := reference?_eq_some_iff.mp hreference
    exact absurd ⟨hname, [], after, heq.symm⟩ (h name)
  | case3 c rest hreference ih =>
    rw [ih, List.map_cons]
    intro name hrest
    exact h name (hrest.append_left [c])

/-! What replaces a text. -/

theorem substitute_of_not_mentions (h : ∀ name, ¬ Mentions t name) :
    substitute env t = (t, []) := by
  rw [substitute, pieces_of_not_mentions h, List.flatMap_map, List.filterMap_map]
  simp [Piece.expanded, Piece.unset?, Function.comp_def]

/-- The text in front of a reference and the text behind it are replaced apart. -/
theorem substitute_cut (env : Environment) (hname : IsName name) (before after : Text) :
    substitute env (before ++ written name ++ after) =
      ((substitute env before).1 ++ (env.lookup name).getD (written name) ++
          (substitute env after).1,
        (substitute env before).2 ++ (if (env.lookup name).isSome then [] else [name]) ++
          (substitute env after).2) := by
  simp only [substitute, pieces_cut hname, List.flatMap_append, List.flatMap_cons,
    List.filterMap_append, List.filterMap_cons]
  cases hvalue : env.lookup name with
  | some value => simp [Piece.expanded, Piece.unset?, hvalue]
  | none => simp [Piece.expanded, Piece.unset?, hvalue, written]

/-- The text after a replacement, with the names that are not set. A text without references stays;
otherwise any reference may be taken, and what stands before it and after it is replaced apart. -/
inductive Expanded (env : Environment) : Text → Text → List Text → Prop
  | plain {t : Text} (h : ∀ name, ¬ Mentions t name) : Expanded env t t []
  | set {before name after value u v : Text} {unset missing : List Text} (hname : IsName name)
    (hvalue : env.lookup name = some value) (hbefore : Expanded env before u unset)
    (hafter : Expanded env after v missing) :
    Expanded env (before ++ written name ++ after) (u ++ value ++ v) (unset ++ missing)
  | unset {before name after u v : Text} {unset missing : List Text} (hname : IsName name)
    (hvalue : env.lookup name = none) (hbefore : Expanded env before u unset)
    (hafter : Expanded env after v missing) :
    Expanded env (before ++ written name ++ after) (u ++ written name ++ v)
      (unset ++ name :: missing)

theorem substitute_of_expanded (h : Expanded env t u unset) : substitute env t = (u, unset) := by
  induction h with
  | plain h => exact substitute_of_not_mentions h
  | set hname hvalue _ _ ihbefore ihafter =>
    rw [substitute_cut env hname, ihbefore, ihafter]
    simp [hvalue]
  | unset hname hvalue _ _ ihbefore ihafter =>
    rw [substitute_cut env hname, ihbefore, ihafter]
    simp [hvalue]

theorem exists_expanded (env : Environment) (t : Text) : ∃ u unset, Expanded env t u unset := by
  induction hlength : t.length using Nat.strongRecOn generalizing t with
  | _ n ih =>
    by_cases h : ∃ name, Mentions t name
    · obtain ⟨name, hname, before, after, rfl⟩ := h
      simp only [List.length_append, length_written] at hlength
      have hbefore : before.length < n := by omega
      have hafter : after.length < n := by omega
      obtain ⟨u, unset, hu⟩ := ih _ hbefore before rfl
      obtain ⟨v, missing, hv⟩ := ih _ hafter after rfl
      cases hvalue : env.lookup name with
      | some value => exact ⟨_, _, .set hname hvalue hu hv⟩
      | none => exact ⟨_, _, .unset hname hvalue hu hv⟩
    · exact ⟨t, [], .plain (not_exists.mp h)⟩

theorem substitute_eq_iff_expanded : substitute env t = (u, unset) ↔ Expanded env t u unset := by
  constructor
  · intro h
    obtain ⟨v, missing, hexpanded⟩ := exists_expanded env t
    rw [substitute_of_expanded hexpanded] at h
    cases h
    exact hexpanded
  · exact substitute_of_expanded

/-- Variables that are not referred to play no part. -/
theorem Expanded.congr (h : Expanded env t u unset)
    (hagree : ∀ name, Mentions t name → env.lookup name = other.lookup name) :
    Expanded other t u unset := by
  induction h with
  | plain h => exact .plain h
  | @set before name after _ _ _ _ _ hname hvalue _ _ ihbefore ihafter =>
    rw [hagree name ⟨hname, before, after, rfl⟩] at hvalue
    refine .set hname hvalue (ihbefore ?_) (ihafter ?_)
    · intro inner hinner
      exact hagree inner ((hinner.append_right _).append_right after)
    · intro inner hinner
      exact hagree inner (hinner.append_left (before ++ written name))
  | @unset before name after _ _ _ _ hname hvalue _ _ ihbefore ihafter =>
    rw [hagree name ⟨hname, before, after, rfl⟩] at hvalue
    refine .unset hname hvalue (ihbefore ?_) (ihafter ?_)
    · intro inner hinner
      exact hagree inner ((hinner.append_right _).append_right after)
    · intro inner hinner
      exact hagree inner (hinner.append_left (before ++ written name))

theorem substitute_congr (hagree : ∀ name, Mentions t name → env.lookup name = other.lookup name) :
    substitute env t = substitute other t := by
  obtain ⟨u, unset, hexpanded⟩ := exists_expanded env t
  rw [substitute_of_expanded hexpanded, substitute_of_expanded (hexpanded.congr hagree)]

end Environment
end Crontab
