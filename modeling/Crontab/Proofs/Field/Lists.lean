import Crontab.Proofs.Field.Compiling
import Crontab.Proofs.Field.Sorting

/-! # Comma lists

A comma is no letter, no star and no digit. So replacing names, writing stars out
and cutting at commas each work item by item, and the atoms of a list are those of
its items.
-/
namespace Crontab
variable {c : Char}

namespace Alias

theorem cutFrom_append (hc : isLetter c = false) (pending t rest : Text) :
    cutFrom pending (t ++ c :: rest) = cutFrom pending t ++ .other c :: cutFrom [] rest := by
  induction t generalizing pending with
  | nil => simp only [List.nil_append, cutFrom, hc, Bool.false_eq_true, if_false]
  | cons d t ih =>
    by_cases hd : isLetter d = true
    · by_cases hpending : pending.length < 2
      · simp only [List.cons_append, cutFrom, if_pos hd, if_pos hpending, ih]
      · simp only [List.cons_append, cutFrom, if_pos hd, if_neg hpending, ih]
    · simp only [List.cons_append, cutFrom, if_neg hd, ih, List.append_assoc]

theorem other_not_mem_lastName (c : Char) (pending : Text) : .other c ∉ lastName pending := by
  cases pending <;> simp [lastName]

theorem mem_of_other_mem_cutFrom {pending t : Text} (h : .other c ∈ cutFrom pending t) : c ∈ t := by
  induction t generalizing pending with
  | nil => exact absurd h (other_not_mem_lastName c pending)
  | cons d t ih =>
    simp only [cutFrom] at h
    split at h
    · split at h
      · exact List.mem_cons_of_mem d (ih h)
      · rcases List.mem_cons.mp h with h | h
        · cases h
        · exact List.mem_cons_of_mem d (ih h)
    · rcases List.mem_append.mp h with h | h
      · exact absurd h (other_not_mem_lastName c pending)
      · rcases List.mem_cons.mp h with h | h
        · cases h
          exact List.mem_cons_self
        · exact List.mem_cons_of_mem d (ih h)

end Alias

theorem Bounds.eq_or_isDigit_of_mem_text {bounds : Bounds} (h : c ∈ bounds.text) :
    c = '-' ∨ c.isDigit = true := by
  rw [text, List.mem_append, List.mem_cons] at h
  rcases h with h | h | h
  · exact Text.eq_or_isDigit_of_mem_ofInt h
  · exact Or.inl h
  · exact Text.eq_or_isDigit_of_mem_ofInt h

namespace Column
variable {column : Column}

section Substitution
variable {label : String} {table : AliasTable} {raw text : Text}

theorem replaceNames_append {front back : List Alias.Piece} {a b : Text}
    (hfront : replaceNames label table front = .ok a)
    (hback : replaceNames label table back = .ok b) :
    replaceNames label table (front ++ back) = .ok (a ++ b) := by
  induction front generalizing a with
  | nil =>
    cases hfront
    exact hback
  | cons piece front ih =>
    cases piece with
    | other c =>
      obtain ⟨rest, hrest, ha⟩ := bind_eq_ok_iff.mp hfront
      cases ha
      exact bind_eq_ok_iff.mpr ⟨rest ++ b, ih hrest, rfl⟩
    | name letters =>
      simp only [List.cons_append, replaceNames] at hfront ⊢
      split at hfront
      · obtain ⟨rest, hrest, ha⟩ := bind_eq_ok_iff.mp hfront
        cases ha
        rw [List.append_assoc]
        exact bind_eq_ok_iff.mpr ⟨rest ++ b, ih hrest, rfl⟩
      · cases hfront

theorem isDigit_or_other_mem_of_replaceNames {pieces : List Alias.Piece}
    (h : replaceNames label table pieces = .ok text) (hc : c ∈ text) :
    c.isDigit = true ∨ .other c ∈ pieces := by
  induction pieces generalizing text with
  | nil =>
    cases h
    cases hc
  | cons piece rest ih =>
    cases piece with
    | other d =>
      obtain ⟨after, hafter, htext⟩ := bind_eq_ok_iff.mp h
      cases htext
      rcases List.mem_cons.mp hc with rfl | hc
      · exact .inr List.mem_cons_self
      · exact (ih hafter hc).imp_right (List.mem_cons_of_mem _)
    | name letters =>
      simp only [replaceNames] at h
      split at h
      · obtain ⟨after, hafter, htext⟩ := bind_eq_ok_iff.mp h
        cases htext
        rcases List.mem_append.mp hc with hc | hc
        · exact .inl (Text.isDigit_of_mem_ofNat hc)
        · exact (ih hafter hc).imp_right (List.mem_cons_of_mem _)
      · cases h

theorem isDigit_or_mem_of_substitute (h : column.substitute raw = .ok text) (hc : c ∈ text) :
    c.isDigit = true ∨ c ∈ raw := by
  unfold substitute at h
  split at h
  · cases h
    exact .inr hc
  · exact (isDigit_or_other_mem_of_replaceNames h hc).imp_right Alias.mem_of_other_mem_cutFrom

theorem substitute_append (hc : Alias.isLetter c = false) {rawFront rawBack front back : Text}
    (hfront : column.substitute rawFront = .ok front)
    (hback : column.substitute rawBack = .ok back) :
    column.substitute (rawFront ++ c :: rawBack) = .ok (front ++ c :: back) := by
  cases htable : column.aliases? with
  | none =>
    simp only [substitute, htable] at hfront hback ⊢
    cases hfront
    cases hback
    rfl
  | some table =>
    simp only [substitute, htable] at hfront hback ⊢
    rw [Alias.cut, Alias.cutFrom_append hc]
    exact replaceNames_append hfront (bind_eq_ok_iff.mpr ⟨back, hback, rfl⟩)

theorem substitute_joined {raws texts : List Text} (hne : raws ≠ [])
    (h : raws.map column.substitute = texts.map .ok) :
    column.substitute (Text.joined ',' raws) = .ok (Text.joined ',' texts) := by
  induction raws generalizing texts with
  | nil => exact absurd rfl hne
  | cons raw rest ih =>
    obtain ⟨text, others, rfl, htext, hothers⟩ := List.map_eq_cons_iff.mp h.symm
    cases rest with
    | nil =>
      cases List.map_eq_nil_iff.mp hothers
      exact htext.symm
    | cons next more =>
      have hrest := ih (List.cons_ne_nil next more) hothers.symm
      obtain ⟨second, rest, rfl, -, -⟩ := List.map_eq_cons_iff.mp hothers
      exact substitute_append rfl htext.symm hrest

/-- No comma comes from a name or from a star. -/
theorem comma_not_mem_writeStars (hraw : ',' ∉ raw) (h : column.substitute raw = .ok text)
    (bounds : Bounds) : ',' ∉ writeStars bounds.text text := by
  have hdigit : ¬ ','.isDigit = true := by decide
  intro hcomma
  obtain ⟨c, hc, hcomma⟩ := List.mem_flatMap.mp hcomma
  split at hcomma
  · rcases Bounds.eq_or_isDigit_of_mem_text hcomma with hdash | hcomma
    · exact absurd hdash (by decide)
    · exact hdigit hcomma
  · rw [List.mem_singleton] at hcomma
    subst hcomma
    rcases isDigit_or_mem_of_substitute h hc with hcomma | hcomma
    · exact hdigit hcomma
    · exact hraw hcomma

end Substitution

/-- A text without commas that compiles by itself. -/
structure Item (column : Column) where
  raw : Text
  values : List Int
  single : ',' ∉ raw
  accepted : column.compile raw = .ok values

namespace Item

def text (item : Item column) : Text :=
  (column.substitute item.raw).toOption.getD []

/-- The one atom of the item. -/
def atom (item : Item column) : Text :=
  writeStars column.bounds.text item.text

def resolved (item : Item column) : Resolved :=
  (column.resolve item.atom).toOption.getD (.run [])

def number (item : Item column) : Int :=
  digitNumber item.atom

/-- The items in the order in which they are merged. -/
def inOrder (items : List (Item column)) : List (Item column) :=
  items.mergeSort fun a b => a.number ≤ b.number

variable {values : List Int} {item : Item column} {items : List (Item column)}

theorem mem_inOrder : item ∈ inOrder items ↔ item ∈ items :=
  List.mem_mergeSort

theorem inOrder_pair {a b : Item column} (h : b.number < a.number) : inOrder [a, b] = [b, a] := by
  have hle : ¬ a.number ≤ b.number := Int.not_le_of_gt h
  simp [inOrder, List.mergeSort, hle]

theorem substitute_raw (item : Item column) : column.substitute item.raw = .ok item.text := by
  obtain ⟨text, htext, -⟩ := compile_eq_ok_iff.mp item.accepted
  rw [Item.text, htext]
  rfl

theorem text_fine (item : Item column) :
    item.text ≠ [] ∧ ∀ c ∈ item.text, isColumnCharacter c := by
  obtain ⟨text, htext, hfine, -⟩ := compile_eq_ok_iff.mp item.accepted
  rw [item.substitute_raw] at htext
  cases htext
  exact hfine

theorem comma_not_mem_atom (item : Item column) : ',' ∉ item.atom :=
  comma_not_mem_writeStars item.single item.substitute_raw column.bounds

theorem resolve_atom (item : Item column) :
    column.resolve item.atom = .ok item.resolved ∧
      (∀ v ∈ item.resolved.written, column.bounds.Contains v) ∧
        item.values = records (-1) (item.resolved.values column) := by
  obtain ⟨text, htext, -, atoms, hatoms, resolved, hreads, hvalues⟩ :=
    compile_eq_ok_iff.mp item.accepted
  rw [item.substitute_raw] at htext
  cases htext
  have hpieces := Text.pieces_of_not_mem item.comma_not_mem_atom
  obtain ⟨-, -, rfl⟩ := (atoms_eq_ok_iff (List.cons_ne_nil _ _) hpieces).mp hatoms
  rw [digitOrder_singleton] at hreads
  obtain ⟨first, others, rfl, hfirst, hwithin, hothers⟩ := reads_cons.mp hreads
  obtain rfl := reads_nil.mp hothers
  have hresolved : item.resolved = first := by
    rw [Item.resolved, hfirst]
    rfl
  rw [hresolved]
  exact ⟨hfirst, hwithin, by rw [hvalues, List.flatMap_singleton]⟩

theorem reads_iff {resolved : List Resolved} :
    column.Reads (items.map atom) resolved ↔ resolved = items.map Item.resolved := by
  induction items generalizing resolved with
  | nil => exact reads_nil
  | cons item rest ih =>
    obtain ⟨hatom, hwithin, -⟩ := item.resolve_atom
    rw [List.map_cons, List.map_cons, reads_cons]
    constructor
    · rintro ⟨first, others, rfl, hfirst, -, hothers⟩
      rw [hatom] at hfirst
      cases hfirst
      rw [ih.mp hothers]
    · rintro rfl
      exact ⟨_, _, rfl, hatom, hwithin, ih.mpr rfl⟩

theorem digitOrder_map_atom (items : List (Item column)) :
    digitOrder (items.map atom) = (inOrder items).map atom :=
  (List.map_mergeSort (f := atom) fun _ _ _ _ => rfl).symm

theorem joined_eq (hne : items ≠ []) :
    column.substitute (Text.joined ',' (items.map raw)) = .ok (Text.joined ',' (items.map text)) ∧
      (Text.joined ',' (items.map text) ≠ [] ∧
        ∀ c ∈ Text.joined ',' (items.map text), isColumnCharacter c) ∧
      Text.pieces ',' (writeStars column.bounds.text (Text.joined ',' (items.map text))) =
        items.map atom := by
  have hmap {β : Type} (f : Item column → β) : items.map f ≠ [] :=
    fun h => hne (List.map_eq_nil_iff.mp h)
  refine ⟨substitute_joined (hmap raw) ?_, ⟨Text.joined_ne_nil (hmap text) ?_, ?_⟩, ?_⟩
  · rw [List.map_map, List.map_map]
    exact List.map_congr_left fun item _ => item.substitute_raw
  · intro t ht
    obtain ⟨item, -, rfl⟩ := List.mem_map.mp ht
    exact item.text_fine.1
  · intro c hc
    rcases Text.mem_joined hc with rfl | ⟨t, ht, hc⟩
    · rfl
    · obtain ⟨item, -, rfl⟩ := List.mem_map.mp ht
      exact item.text_fine.2 c hc
  · have hexpand : writeStars column.bounds.text (Text.joined ',' (items.map text)) =
        Text.joined ',' (items.map atom) := by
      rw [writeStars, Text.flatMap_joined rfl, List.map_map]
      rfl
    rw [hexpand]
    refine Text.pieces_joined (hmap atom) fun t ht => ?_
    obtain ⟨item, -, rfl⟩ := List.mem_map.mp ht
    exact item.comma_not_mem_atom

/-- A list of items is refused only for too many digits in an atom, and its values are the records of
all values of its items, taken in the order in which they are merged. -/
theorem compile_joined_eq_ok_iff (hne : items ≠ []) :
    column.compile (Text.joined ',' (items.map raw)) = .ok values ↔
      (1 < items.length → ∀ item ∈ items, (digitsOf item.atom).length ≤ Text.digitLimit) ∧
        values = records (-1) ((inOrder items).flatMap fun item => item.resolved.values column) := by
  obtain ⟨hsubstitute, hfine, hpieces⟩ := joined_eq hne
  have hatoms : items.map atom ≠ [] := fun h => hne (List.map_eq_nil_iff.mp h)
  have hlimit : (1 < (items.map atom).length →
      ∀ a ∈ items.map atom, (digitsOf a).length ≤ Text.digitLimit) ↔
        (1 < items.length → ∀ item ∈ items, (digitsOf item.atom).length ≤ Text.digitLimit) := by
    rw [List.length_map, List.forall_mem_map]
  have hspan : column.bounds.span = .ok column.bounds.text := by
    obtain ⟨item, -⟩ := List.exists_mem_of_ne_nil items hne
    exact span_of_compile item.accepted
  rw [compile_eq_ok_iff, ← hlimit]
  constructor
  · rintro ⟨text, htext, -, sorted, hsorted, resolved, hreads, rfl⟩
    rw [hsubstitute] at htext
    cases htext
    obtain ⟨-, hlength, rfl⟩ := (atoms_eq_ok_iff hatoms hpieces).mp hsorted
    rw [digitOrder_map_atom, reads_iff] at hreads
    rw [hreads, List.flatMap_map]
    exact ⟨hlength, rfl⟩
  · rintro ⟨hlength, rfl⟩
    refine ⟨_, hsubstitute, hfine, _, (atoms_eq_ok_iff hatoms hpieces).mpr ⟨hspan, hlength, rfl⟩, ?_⟩
    refine ⟨(inOrder items).map Item.resolved, ?_, by rw [List.flatMap_map]⟩
    rw [digitOrder_map_atom, reads_iff]

end Item
end Column
end Crontab
