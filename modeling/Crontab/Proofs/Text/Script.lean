import Crontab.Proofs.Text.Numeral
import Crontab.Proofs.Text.Words
import Mathlib.Data.List.Forall2

/-! # Digits in another script

Every digit has an ordinary digit of the same value. Texts that differ only in the
scripts of their digits become equal when their digits are made ordinary, and
cutting a text or reading a number commutes with that.
-/
namespace Crontab.Text
variable {c d : Char} {t u : Text} {v : Nat}

/-- The ordinary digit with the value of a digit. Other characters stay. -/
def ordinary (c : Char) : Char :=
  ((digitValue? c).map Nat.digitChar).getD c

theorem digitValue?_lt (h : digitValue? c = some v) : v < 10 := by
  obtain ⟨first, hfirst, rfl⟩ := Option.map_eq_some_iff.mp h
  have hwithin := List.find?_some hfirst
  simp only [Bool.and_eq_true, decide_eq_true_eq] at hwithin
  omega

theorem ordinary_of_digitValue? (h : digitValue? c = some v) : ordinary c = Nat.digitChar v := by
  simp [ordinary, h]

theorem digitValue?_eq_none_iff : digitValue? c = none ↔ isDigit c = false := by
  simp [isDigit]

theorem ordinary_of_not_isDigit (h : isDigit c = false) : ordinary c = c := by
  simp [ordinary, digitValue?_eq_none_iff.mpr h]

theorem digitValue?_ordinary (c : Char) : digitValue? (ordinary c) = digitValue? c := by
  cases h : digitValue? c with
  | none => rw [ordinary_of_not_isDigit (digitValue?_eq_none_iff.mp h), h]
  | some v => rw [ordinary_of_digitValue? h, digitValue?_digitChar (digitValue?_lt h)]

theorem isDigit_ordinary (c : Char) : isDigit (ordinary c) = isDigit c := by
  rw [isDigit, isDigit, digitValue?_ordinary]

/-- A class without digits does not change its mind about a character. -/
theorem ordinary_of_no_digit {p : Char → Bool} (h : ∀ c, isDigit c = true → p c = false) (c : Char) :
    p (ordinary c) = p c := by
  cases hc : isDigit c with
  | false => rw [ordinary_of_not_isDigit hc]
  | true => rw [h c hc, h (ordinary c) (by rw [isDigit_ordinary, hc])]

theorem ordinary_eq_iff (hd : isDigit d = false) : ordinary c = d ↔ c = d := by
  have hsame := ordinary_of_no_digit (p := (· == d)) (fun c hc => by
    apply beq_false_of_ne
    rintro rfl
    rw [hc] at hd
    cases hd) c
  rw [Bool.eq_iff_iff, beq_iff_eq, beq_iff_eq] at hsame
  exact hsame

theorem ordinary_minus : ordinary '-' = '-' :=
  (ordinary_eq_iff (by decide)).mpr rfl

theorem isLetter_ordinary (c : Char) : Alias.isLetter (ordinary c) = Alias.isLetter c :=
  ordinary_of_no_digit (fun _ h => not_isLetter_of_isDigit h) c

theorem ordinary_of_isLetter (h : Alias.isLetter c = true) : ordinary c = c := by
  apply ordinary_of_not_isDigit
  rw [Bool.eq_false_iff]
  intro hdigit
  rw [not_isLetter_of_isDigit hdigit] at h
  cases h

/-- Digits are no blanks. -/
theorem zeros_apart_from_blanks : ∀ first ∈ zeros, ∀ k ∈ List.range 10,
    isBlank (Char.ofNat (first + k)) = false := by
  decide

theorem not_isBlank_of_isDigit (h : isDigit c = true) : isBlank c = false := by
  obtain ⟨first, hfirst, hlow, hhigh⟩ := isDigit_iff.mp h
  have hblank := zeros_apart_from_blanks first hfirst (c.toNat - first)
    (List.mem_range.mpr (by omega))
  rwa [Nat.add_sub_cancel' hlow, Char.ofNat_toNat] at hblank

theorem isBlank_ordinary (c : Char) : isBlank (ordinary c) = isBlank c :=
  ordinary_of_no_digit (fun _ h => not_isBlank_of_isDigit h) c

theorem isColumnCharacter_ordinary (c : Char) :
    isColumnCharacter (ordinary c) = isColumnCharacter c := by
  cases hc : isDigit c with
  | false => rw [ordinary_of_not_isDigit hc]
  | true => simp [isColumnCharacter, isDigit_ordinary, hc]

/-- The characters are equal, or they are digits of one value. -/
def SameDigit (c d : Char) : Prop :=
  c = d ∨ ∃ v, digitValue? c = some v ∧ digitValue? d = some v

theorem sameDigit_iff : SameDigit c d ↔ ordinary c = ordinary d := by
  constructor
  · rintro (rfl | ⟨v, hc, hd⟩)
    · rfl
    · rw [ordinary_of_digitValue? hc, ordinary_of_digitValue? hd]
  · intro h
    have hvalue : digitValue? c = digitValue? d := by
      rw [← digitValue?_ordinary c, h, digitValue?_ordinary]
    cases hd : digitValue? d with
    | some v => exact .inr ⟨v, hvalue.trans hd, hd⟩
    | none =>
      have hc := hvalue.trans hd
      rw [ordinary_of_not_isDigit (digitValue?_eq_none_iff.mp hc),
        ordinary_of_not_isDigit (digitValue?_eq_none_iff.mp hd)] at h
      exact .inl h

/-- Texts agree up to the scripts of their digits exactly if they are equal in ordinary digits. -/
theorem forall₂_sameDigit_iff : List.Forall₂ SameDigit t u ↔ t.map ordinary = u.map ordinary := by
  have hsame : SameDigit = fun c d => ordinary c = ordinary d := by
    funext c d
    exact propext sameDigit_iff
  rw [← List.forall₂_eq_eq_eq, List.forall₂_map_left_iff, List.forall₂_map_right_iff, hsame]

section Ordinary

theorem ordinary_of_char_isDigit (h : c.isDigit = true) : ordinary c = c := by
  have hten : ∀ n ∈ List.range' 48 10, ordinary (Char.ofNat n) = Char.ofNat n := by decide
  have hcode : c.toNat ∈ List.range' 48 10 := by
    obtain ⟨hlow, hhigh⟩ := Char.isDigit_iff_toNat.mp h
    exact List.mem_range'_1.mpr ⟨hlow, Nat.lt_succ_of_le hhigh⟩
  have hc := hten c.toNat hcode
  rwa [Char.ofNat_toNat] at hc

/-- A text without digits of other scripts stays as it is. -/
theorem map_ordinary_eq_self (h : ∀ c ∈ t, c.isDigit = true ∨ isDigit c = false) :
    t.map ordinary = t := by
  rw [List.map_congr_left (g := id), List.map_id]
  intro c hc
  rcases h c hc with hdigit | hother
  · exact ordinary_of_char_isDigit hdigit
  · exact ordinary_of_not_isDigit hother

theorem map_ordinary_ofNat (n : Nat) : (ofNat n).map ordinary = ofNat n := by
  apply map_ordinary_eq_self
  intro c hc
  exact .inl (isDigit_of_mem_ofNat hc)

theorem map_ordinary_ofInt (n : Int) : (ofInt n).map ordinary = ofInt n := by
  apply map_ordinary_eq_self
  intro c hc
  rcases eq_or_isDigit_of_mem_ofInt hc with rfl | hdigit
  · exact .inr (by decide)
  · exact .inl hdigit

/-- A text without digits is not taken for another one. -/
theorem map_ordinary_eq_iff (hu : ∀ c ∈ u, isDigit c = false) : t.map ordinary = u ↔ t = u := by
  induction t generalizing u with
  | nil => simp
  | cons c t ih =>
    cases u with
    | nil => simp
    | cons d u =>
      obtain ⟨hd, hrest⟩ := List.forall_mem_cons.mp hu
      simp [ordinary_eq_iff hd, ih hrest]

end Ordinary

section Reading

theorem isDigit_comp_ordinary : isDigit ∘ ordinary = isDigit := by
  funext c
  exact isDigit_ordinary c

theorem filter_isDigit_map_ordinary (t : Text) :
    (t.map ordinary).filter isDigit = (t.filter isDigit).map ordinary := by
  rw [List.filter_map, isDigit_comp_ordinary]

theorem isNumeral_map_ordinary (t : Text) : isNumeral (t.map ordinary) = isNumeral t := by
  rw [isNumeral, isNumeral, List.isEmpty_map, List.all_map, isDigit_comp_ordinary]

theorem value_map_ordinary (t : Text) : value (t.map ordinary) = value t := by
  simp only [value, List.foldl_map, digitValue?_ordinary]

end Reading

section Cutting
variable {separator : Char}

theorem contains_map_ordinary (hs : isDigit separator = false) (t : Text) :
    (t.map ordinary).contains separator = t.contains separator := by
  rw [Bool.eq_iff_iff, List.contains_iff_mem, List.contains_iff_mem, List.mem_map]
  simp [ordinary_eq_iff hs]

theorem takeWhile_map_ordinary (hs : isDigit separator = false) (t : Text) :
    (t.map ordinary).takeWhile (· ≠ separator) = (t.takeWhile (· ≠ separator)).map ordinary := by
  rw [List.takeWhile_map]
  congr 2
  funext c
  simp [ordinary_eq_iff hs]

theorem pieces_map_ordinary (hs : isDigit separator = false) (t : Text) :
    pieces separator (t.map ordinary) = (pieces separator t).map (List.map ordinary) := by
  induction t with
  | nil => rfl
  | cons c t ih =>
    by_cases hc : c = separator
    · have hord := (ordinary_eq_iff hs).mpr hc
      simp only [List.map_cons, pieces, if_pos hc, if_pos hord, ih, List.map_nil]
    · have hord := mt (ordinary_eq_iff hs).mp hc
      simp only [List.map_cons, pieces, if_neg hc, if_neg hord, ih]
      cases pieces separator t <;> rfl

theorem cut?_map_ordinary (hs : isDigit separator = false) (t : Text) :
    cut? separator (t.map ordinary) =
      (cut? separator t).map fun (before, after) => (before.map ordinary, after.map ordinary) := by
  induction t with
  | nil => rfl
  | cons c t ih =>
    by_cases hc : c = separator
    · have hord := (ordinary_eq_iff hs).mpr hc
      simp only [List.map_cons, cut?, if_pos hc, if_pos hord]
      rfl
    · have hord := mt (ordinary_eq_iff hs).mp hc
      simp only [List.map_cons, cut?, if_neg hc, if_neg hord, ih]
      cases cut? separator t <;> rfl

theorem words_map_ordinary (t : Text) : words (t.map ordinary) = (words t).map (List.map ordinary) := by
  induction t with
  | nil => rfl
  | cons c t ih =>
    have hblank : isBlank ∘ ordinary = isBlank := by
      funext c
      exact isBlank_ordinary c
    simp only [List.map_cons, words, isBlank_ordinary, ih, List.head?_map, Option.map_map, hblank]
    split
    · rfl
    · split
      · rfl
      · cases words t <;> rfl

end Cutting

end Crontab.Text
