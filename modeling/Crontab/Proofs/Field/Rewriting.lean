import Crontab.Proofs.Field.Lists

/-! # Rewriting piece by piece

A sign is neither a letter nor a digit of a number, so replacing names leaves
every sign where it is and works on the pieces between them. What a rewritten
text is made of can therefore be told of the text as it was written, and a text
compiles only if each of its items resolves to values within the bounds.
-/
namespace Crontab
variable {c : Char}

namespace Alias

namespace Piece

def text : Piece → Text
  | .name letters => letters
  | .other c => [c]

/-- What is written in the place of a piece; `none` for an unknown name. -/
def replaced? (table : AliasTable) : Piece → Option Text
  | .name letters => (table.lookup (letters.flatMap lower)).map Text.ofNat
  | .other c => some [c]

theorem replaced?_ne_nil {table : AliasTable} {piece : Piece} {t : Text}
    (h : piece.replaced? table = some t) : t ≠ [] := by
  cases piece with
  | name letters =>
    obtain ⟨n, -, rfl⟩ := Option.map_eq_some_iff.mp h
    exact Nat.toDigits_ne_nil
  | other c =>
    cases h
    exact List.cons_ne_nil c []

end Piece

theorem flatMap_lastName (pending : Text) : (lastName pending).flatMap Piece.text = pending := by
  cases pending with
  | nil => rfl
  | cons c rest => exact List.append_nil _

/-- Cutting loses nothing. -/
theorem flatMap_cutFrom (pending t : Text) :
    (cutFrom pending t).flatMap Piece.text = pending ++ t := by
  induction t generalizing pending with
  | nil => rw [cutFrom, flatMap_lastName, List.append_nil]
  | cons c rest ih =>
    simp only [cutFrom]
    split
    · split
      · rw [ih, List.append_assoc, List.singleton_append]
      · rw [List.flatMap_cons, ih, Piece.text, List.nil_append, List.append_assoc,
          List.singleton_append]
    · rw [List.flatMap_append, flatMap_lastName, List.flatMap_cons, ih]
      rfl

end Alias

namespace Column
variable {column : Column} {raw text : Text} {values : List Int}

section Substitution
variable {label : String} {table : AliasTable} {rawFront rawBack front back : Text}

theorem replaceNames_cons_eq_ok_iff {piece : Alias.Piece} {rest : List Alias.Piece} :
    replaceNames label table (piece :: rest) = .ok text ↔
      ∃ front back, piece.replaced? table = some front ∧
        replaceNames label table rest = .ok back ∧ text = front ++ back := by
  cases piece with
  | other c =>
    simp only [replaceNames, Alias.Piece.replaced?, bind_eq_ok_iff, Option.some.injEq]
    constructor
    · rintro ⟨back, hback, htext⟩
      cases htext
      exact ⟨[c], back, rfl, hback, rfl⟩
    · rintro ⟨_, back, rfl, hback, rfl⟩
      exact ⟨back, hback, rfl⟩
  | name letters =>
    simp only [replaceNames, Alias.Piece.replaced?, Option.map_eq_some_iff]
    cases table.lookup (letters.flatMap Alias.lower) with
    | none =>
      constructor
      · intro h
        cases h
      · rintro ⟨_, _, ⟨_, hnone, -⟩, -⟩
        cases hnone
    | some n =>
      simp only [bind_eq_ok_iff]
      constructor
      · rintro ⟨back, hback, htext⟩
        cases htext
        exact ⟨Text.ofNat n, back, ⟨n, rfl, rfl⟩, hback, rfl⟩
      · rintro ⟨_, back, ⟨_, hn, rfl⟩, hback, rfl⟩
        cases hn
        exact ⟨back, hback, rfl⟩

theorem replaceNames_append_eq_ok {front back : List Alias.Piece}
    (h : replaceNames label table (front ++ back) = .ok text) :
    ∃ a b, replaceNames label table front = .ok a ∧ replaceNames label table back = .ok b ∧
      text = a ++ b := by
  induction front generalizing text with
  | nil => exact ⟨[], text, rfl, h, rfl⟩
  | cons piece front ih =>
    obtain ⟨first, rest, hfirst, hrest, rfl⟩ := replaceNames_cons_eq_ok_iff.mp h
    obtain ⟨a, b, ha, hb, rfl⟩ := ih hrest
    have hcons := replaceNames_cons_eq_ok_iff.mpr ⟨first, a, hfirst, ha, rfl⟩
    exact ⟨first ++ a, b, hcons, hb, (List.append_assoc first a b).symm⟩

theorem substitute_append_eq_ok (hc : Alias.isLetter c = false)
    (h : column.substitute (rawFront ++ c :: rawBack) = .ok text) :
    ∃ front back, column.substitute rawFront = .ok front ∧
      column.substitute rawBack = .ok back ∧ text = front ++ c :: back := by
  cases htable : column.aliases? with
  | none =>
    simp only [substitute, htable] at h ⊢
    cases h
    exact ⟨rawFront, rawBack, rfl, rfl, rfl⟩
  | some table =>
    simp only [substitute, htable] at h ⊢
    rw [Alias.cut, Alias.cutFrom_append hc] at h
    obtain ⟨front, rest, hfront, hrest, rfl⟩ := replaceNames_append_eq_ok h
    obtain ⟨back, hback, heq⟩ := bind_eq_ok_iff.mp hrest
    cases heq
    exact ⟨front, back, hfront, hback, rfl⟩

theorem sign_not_mem_of_substitute (hdigit : c.isDigit = false) (hraw : c ∉ raw)
    (h : column.substitute raw = .ok text) : c ∉ text := by
  intro hc
  rcases isDigit_or_mem_of_substitute h hc with hd | hc
  · rw [hdigit] at hd
    cases hd
  · exact hraw hc

/-- A rewritten text is cut at a sign where the text was that it comes from. -/
theorem substitute_cut (hc : Alias.isLetter c = false) (hdigit : c.isDigit = false)
    (hfront : c ∉ front) (h : column.substitute raw = .ok (front ++ c :: back)) :
    ∃ rawFront rawBack, raw = rawFront ++ c :: rawBack ∧
      column.substitute rawFront = .ok front ∧ column.substitute rawBack = .ok back := by
  have hraw : c ∈ raw := by
    by_contra hraw
    exact sign_not_mem_of_substitute hdigit hraw h (List.mem_append_right front List.mem_cons_self)
  obtain ⟨rawFront, rawBack, rfl, hnot⟩ := List.eq_append_cons_of_mem hraw
  obtain ⟨a, b, ha, hb, htext⟩ := substitute_append_eq_ok hc h
  have hcut := Text.cut?_append hfront back
  rw [htext, Text.cut?_append (sign_not_mem_of_substitute hdigit hnot ha)] at hcut
  cases hcut
  exact ⟨rawFront, rawBack, rfl, ha, hb⟩

theorem substitute_joined_eq_ok (hc : Alias.isLetter c = false) (hdigit : c.isDigit = false)
    {raws : List Text} (hne : raws ≠ []) (hraws : ∀ r ∈ raws, c ∉ r)
    (h : column.substitute (Text.joined c raws) = .ok text) :
    raws.map column.substitute = (Text.pieces c text).map .ok := by
  induction raws generalizing text with
  | nil => exact absurd rfl hne
  | cons first rest ih =>
    obtain ⟨hfirst, hrest⟩ := List.forall_mem_cons.mp hraws
    cases rest with
    | nil =>
      rw [Text.pieces_of_not_mem (sign_not_mem_of_substitute hdigit hfirst h)]
      exact congrArg (fun t => [t]) h
    | cons next others =>
      rw [Text.joined_cons_cons] at h
      obtain ⟨front, back, hfront, hback, rfl⟩ := substitute_append_eq_ok hc h
      have hothers := ih (List.cons_ne_nil next others) hrest hback
      rw [Text.pieces_append (sign_not_mem_of_substitute hdigit hfirst hfront)]
      exact congrArg₂ List.cons hfront hothers

/-- The pieces between signs are rewritten one by one. -/
theorem substitute_pieces (hc : Alias.isLetter c = false) (hdigit : c.isDigit = false)
    (h : column.substitute raw = .ok text) :
    (Text.pieces c raw).map column.substitute = (Text.pieces c text).map .ok := by
  rw [← Text.joined_pieces c raw] at h
  exact substitute_joined_eq_ok hc hdigit (Text.pieces_ne_nil c raw)
    (fun _ => Text.not_mem_of_mem_pieces) h

theorem sign_mem_iff_of_substitute (hc : Alias.isLetter c = false) (hdigit : c.isDigit = false)
    (h : column.substitute raw = .ok text) : c ∈ raw ↔ c ∈ text := by
  constructor
  · intro hraw
    obtain ⟨front, back, rfl⟩ := List.append_of_mem hraw
    obtain ⟨a, b, -, -, rfl⟩ := substitute_append_eq_ok hc h
    exact List.mem_append_right a List.mem_cons_self
  · intro htext
    by_contra hraw
    exact sign_not_mem_of_substitute hdigit hraw h htext

/-- What stands behind the last sign is rewritten by itself. -/
theorem substitute_getLast? (hc : Alias.isLetter c = false) (hdigit : c.isDigit = false)
    (h : column.substitute raw = .ok text) :
    ∃ last, (Text.pieces c raw).getLast? = some last ∧
      column.substitute last = .ok ((Text.pieces c text).getLastD []) := by
  have hlast := congrArg List.getLast? (substitute_pieces hc hdigit h)
  obtain ⟨last, hraw⟩ := Option.ne_none_iff_exists'.mp
    (mt List.getLast?_eq_none_iff.mp (Text.pieces_ne_nil c raw))
  obtain ⟨piece, htext⟩ := Option.ne_none_iff_exists'.mp
    (mt List.getLast?_eq_none_iff.mp (Text.pieces_ne_nil c text))
  rw [List.getLast?_map, List.getLast?_map, hraw, htext] at hlast
  refine ⟨last, hraw, ?_⟩
  rw [List.getLastD_eq_getLast?, htext]
  exact Option.some.inj hlast

theorem substitute_eq_ok_nil (h : column.substitute raw = .ok []) : raw = [] := by
  cases htable : column.aliases? with
  | none =>
    simp only [substitute, htable] at h
    cases h
    rfl
  | some table =>
    simp only [substitute, htable] at h
    have hraw : (Alias.cut raw).flatMap Alias.Piece.text = raw := Alias.flatMap_cutFrom [] raw
    cases hcut : Alias.cut raw with
    | nil =>
      rw [← hraw, hcut]
      rfl
    | cons piece rest =>
      rw [hcut] at h
      obtain ⟨front, back, hfront, -, happend⟩ := replaceNames_cons_eq_ok_iff.mp h
      have hempty : front = [] := (List.append_eq_nil_iff.mp happend.symm).1
      exact absurd hempty (Alias.Piece.replaced?_ne_nil hfront)

end Substitution

theorem pieces_writeStars {bounds : Bounds} (h : column.substitute raw = .ok text) :
    Text.pieces ',' (writeStars bounds.text text) =
      (Text.pieces ',' text).map (writeStars bounds.text) := by
  refine Text.pieces_flatMap rfl fun piece hpiece => ?_
  obtain ⟨rawPiece, hrawPiece, hsubstitute⟩ := exists_entry (substitute_pieces rfl rfl h) hpiece
  exact comma_not_mem_writeStars (Text.not_mem_of_mem_pieces hrawPiece) hsubstitute bounds

/-- Every item of a text that compiles resolves by itself, to values within the bounds. -/
theorem resolve_of_compile (h : column.compile raw = .ok values) {item : Text}
    (hitem : item ∈ Text.pieces ',' raw) :
    ∃ text resolved, column.substitute item = .ok text ∧ (∀ c ∈ text, isColumnCharacter c) ∧
      column.resolve (writeStars column.bounds.text text) = .ok resolved ∧
        ∀ v ∈ resolved.written, column.bounds.Contains v := by
  obtain ⟨whole, hwhole, ⟨-, hcharacters⟩, atoms, hatoms, items, ⟨hitems, hwithin⟩, -⟩ :=
    compile_eq_ok_iff.mp h
  obtain ⟨text, hpiece, htext⟩ := exists_result (substitute_pieces rfl rfl hwhole) hitem
  have hatom : writeStars column.bounds.text text ∈ atoms := by
    have hne := Text.pieces_ne_nil ',' (writeStars column.bounds.text whole)
    obtain ⟨-, -, rfl⟩ := (atoms_eq_ok_iff hne rfl).mp hatoms
    rw [mem_digitOrder, pieces_writeStars hwhole]
    exact List.mem_map_of_mem hpiece
  obtain ⟨resolved, hresolved, hresolve⟩ := exists_result hitems hatom
  have hfine : ∀ c ∈ text, isColumnCharacter c :=
    fun c hc => hcharacters c ((Text.sublist_of_mem_pieces hpiece).subset hc)
  exact ⟨text, resolved, htext, hfine, hresolve, hwithin resolved hresolved⟩

end Column
end Crontab
