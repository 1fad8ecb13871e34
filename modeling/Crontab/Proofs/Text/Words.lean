import Crontab.Text.Blank

/-! # Words

A text falls into words at its blanks, wherever they stand and however many there
are. A text without blanks is one word, so words with one space between them are
read back as they are.
-/
namespace Crontab.Text
variable {c d : Char} {t word : Text}

/-- A text that is not empty and has no blanks. -/
def IsWord (t : Text) : Prop :=
  t ≠ [] ∧ ∀ c ∈ t, isBlank c = false

instance (t : Text) : Decidable (IsWord t) :=
  inferInstanceAs (Decidable (_ ∧ _))

theorem isWord_singleton (hc : isBlank c = false) : IsWord [c] :=
  ⟨List.cons_ne_nil c [], fun _ hd => List.mem_singleton.mp hd ▸ hc⟩

theorem isWord_cons (hc : isBlank c = false) (hword : IsWord word) : IsWord (c :: word) := by
  refine ⟨List.cons_ne_nil c word, fun d hd => ?_⟩
  rcases List.mem_cons.mp hd with rfl | hd
  · exact hc
  · exact hword.2 d hd

/-! A character begins a word of its own, continues the word after it, or separates. -/

theorem words_cons_of_isBlank (hc : isBlank c = true) (t : Text) : words (c :: t) = words t := by
  simp only [words, if_pos hc]

theorem words_cons_of_ends (hc : isBlank c = false) (ht : ∀ d ∈ t.head?, isBlank d = true) :
    words (c :: t) = [c] :: words t := by
  cases t with
  | nil => simp [words, hc]
  | cons d t =>
    have hd : isBlank d = true := ht d rfl
    simp [words, hc, hd]

theorem words_cons_cons (hc : isBlank c = false) (hd : isBlank d = false) (t : Text) :
    ∃ first more, words (d :: t) = first :: more ∧ words (c :: d :: t) = (c :: first) :: more := by
  have hne : words (d :: t) ≠ [] := by
    simp only [words, hd, Bool.false_eq_true, if_false]
    split
    · exact List.cons_ne_nil _ _
    · split <;> exact List.cons_ne_nil _ _
  obtain ⟨first, more, hwords⟩ := List.exists_cons_of_ne_nil hne
  refine ⟨first, more, hwords, ?_⟩
  rw [words, hwords]
  simp [hc, hd]

theorem isWord_of_mem_words (h : word ∈ words t) : IsWord word := by
  induction t generalizing word with
  | nil => cases h
  | cons c t ih =>
    cases hc : isBlank c with
    | true =>
      rw [words_cons_of_isBlank hc] at h
      exact ih h
    | false =>
      by_cases ht : ∀ d ∈ t.head?, isBlank d = true
      · rw [words_cons_of_ends hc ht] at h
        rcases List.mem_cons.mp h with rfl | h
        · exact isWord_singleton hc
        · exact ih h
      · cases t with
        | nil => exact absurd nofun ht
        | cons d t =>
          have hd : isBlank d = false := by simpa using ht
          obtain ⟨first, more, hrest, hwords⟩ := words_cons_cons hc hd t
          rw [hrest] at ih
          rw [hwords] at h
          rcases List.mem_cons.mp h with rfl | h
          · exact isWord_cons hc (ih List.mem_cons_self)
          · exact ih (List.mem_cons_of_mem first h)

/-- A blank ends a word and begins none. -/
theorem words_append_blank (hc : isBlank c = true) (front back : Text) :
    words (front ++ c :: back) = words front ++ words back := by
  induction front with
  | nil => exact words_cons_of_isBlank hc back
  | cons d front ih =>
    cases hd : isBlank d with
    | true => rw [List.cons_append, words_cons_of_isBlank hd, words_cons_of_isBlank hd, ih]
    | false =>
      cases front with
      | nil =>
        have hlast : words [d] = [[d]] := words_cons_of_ends hd nofun
        rw [List.singleton_append, words_cons_of_ends hd (by simpa using hc),
          words_cons_of_isBlank hc, hlast]
        rfl
      | cons e front =>
        cases he : isBlank e with
        | true =>
          rw [List.cons_append, words_cons_of_ends hd (by simpa using he), ih,
            words_cons_of_ends hd (by simpa using he)]
          rfl
        | false =>
          obtain ⟨first, more, hrest, hwords⟩ := words_cons_cons hd he front
          obtain ⟨_, _, hrest', hwords'⟩ := words_cons_cons hd he (front ++ c :: back)
          rw [List.cons_append, hrest', hrest, List.cons_append] at ih
          cases ih
          rw [hwords]
          exact hwords'

theorem words_of_isWord (h : IsWord t) : words t = [t] := by
  induction t with
  | nil => exact absurd rfl h.1
  | cons c rest ih =>
    have hc : isBlank c = false := h.2 c List.mem_cons_self
    cases rest with
    | nil => exact words_cons_of_ends hc nofun
    | cons d rest =>
      have hrest : IsWord (d :: rest) :=
        ⟨List.cons_ne_nil d rest, fun e he => h.2 e (List.mem_cons_of_mem c he)⟩
      obtain ⟨first, more, hword, hwords⟩ := words_cons_cons hc (hrest.2 d List.mem_cons_self) rest
      rw [ih hrest] at hword
      cases hword
      exact hwords

/-- Words with one space between neighbours are read back. -/
theorem words_joined {ts : List Text} (h : ∀ t ∈ ts, IsWord t) : words (joined ' ' ts) = ts := by
  induction ts with
  | nil => rfl
  | cons t rest ih =>
    obtain ⟨ht, hrest⟩ := List.forall_mem_cons.mp h
    cases rest with
    | nil => exact words_of_isWord ht
    | cons next more =>
      rw [joined_cons_cons, words_append_blank rfl, words_of_isWord ht, ih hrest]
      rfl

end Crontab.Text
