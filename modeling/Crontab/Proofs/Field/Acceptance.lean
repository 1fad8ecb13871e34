import Crontab.Proofs.Field.Rewriting

/-! # Which lists are accepted

An atom fails by itself, whatever was collected before it. So a list is accepted exactly if each of
its items is, no value being dropped before it is checked, and a list that is refused is
refused for the first atom that fails in the order of digits.
-/
namespace Crontab
namespace Column
variable {column : Column} {collected others values : List Int} {atom raw : Text}
variable {atoms raws texts : List Text} {resolved : Resolved} {fault : Fault}

/-- One atom, resolved and merged with the values collected before it. -/
def add (column : Column) (collected : List Int) (atom : Text) : Except Fault (List Int) := do
  let resolved ← column.resolve atom
  column.merge collected resolved

theorem collect_cons (column : Column) (collected : List Int) (atom : Text) (rest : List Text) :
    column.collect collected (atom :: rest) =
      column.add collected atom >>= fun values => column.collect values rest := by
  rw [collect, add]
  cases column.resolve atom with
  | error fault => rfl
  | ok resolved => rfl

theorem merge_eq_error_iff : column.merge collected resolved = .error fault ↔
    ∃ v, resolved.written.find? (fun v => !decide (column.bounds.Contains v)) = some v ∧
      fault = .parse (.valueOutside column.label v column.bounds) := by
  unfold merge
  cases resolved.written.find? fun v => !decide (column.bounds.Contains v) with
  | none => exact ⟨nofun, fun ⟨_, hv, _⟩ => nomatch hv⟩
  | some v =>
    constructor
    · intro h
      exact ⟨v, rfl, (Except.error.inj h).symm⟩
    · rintro ⟨w, hw, rfl⟩
      cases hw
      rfl

/-- What was collected before an atom has no part in its fault. -/
theorem add_eq_error_iff :
    column.add collected atom = .error fault ↔ column.add others atom = .error fault := by
  unfold add
  cases column.resolve atom with
  | error cause => exact Iff.rfl
  | ok resolved =>
    change column.merge collected resolved = .error fault ↔ column.merge others resolved = .error fault
    rw [merge_eq_error_iff, merge_eq_error_iff]

/-- Collecting fails at the first atom that fails, whatever others were collected before. -/
theorem collect_eq_error_iff (others : List Int) : column.collect collected atoms = .error fault ↔
    ∃ atom, FirstFault (column.add others) atoms atom fault := by
  -- The collected values grow with every atom, while the atoms are judged by the same `others`.
  induction atoms generalizing collected with
  | nil => exact ⟨nofun, fun ⟨_, h⟩ => absurd h not_firstFault_nil⟩
  | cons first rest ih =>
    rw [collect_cons]
    exact bind_eq_error_iff_firstFault (fun cause => add_eq_error_iff) fun values => ih

theorem resolve_nil (column : Column) :
    column.resolve [] = .error (.parse (.notANumber column.label [])) :=
  rfl

/-- Every item of a list that is accepted is accepted by itself. -/
theorem compile_of_mem_pieces (h : column.compile raw = .ok values) {item : Text}
    (hitem : item ∈ Text.pieces ',' raw) : ∃ own, column.compile item = .ok own := by
  obtain ⟨text, resolved, htext, hfine, hresolved, hwithin⟩ := resolve_of_compile h hitem
  have hne : text ≠ [] := by
    rintro rfl
    cases (resolve_nil column).symm.trans hresolved
  have hcomma : ',' ∉ writeStars column.bounds.text text :=
    comma_not_mem_writeStars (Text.not_mem_of_mem_pieces hitem) htext column.bounds
  have hatoms : column.atoms text = .ok [writeStars column.bounds.text text] :=
    (atoms_eq_ok_iff (List.cons_ne_nil _ _) (Text.pieces_of_not_mem hcomma)).mpr
      ⟨span_of_compile h, fun hmany => absurd hmany (Nat.lt_irrefl 1),
        (digitOrder_singleton _).symm⟩
  have hreads : column.Reads [writeStars column.bounds.text text] [resolved] :=
    reads_cons.mpr ⟨resolved, [], rfl, hresolved, hwithin, reads_nil.mpr rfl⟩
  exact ⟨_, compile_eq_ok_iff.mpr ⟨text, htext, ⟨hne, hfine⟩, _, hatoms, _, hreads, rfl⟩⟩

theorem exists_items (hsingle : ∀ r ∈ raws, ',' ∉ r)
    (haccepted : ∀ r ∈ raws, ∃ values, column.compile r = .ok values) :
    ∃ items : List column.Item, items.map Item.raw = raws := by
  induction raws with
  | nil => exact ⟨[], rfl⟩
  | cons r rest ih =>
    obtain ⟨hr, hrest⟩ := List.forall_mem_cons.mp hsingle
    obtain ⟨⟨values, hvalues⟩, hothers⟩ := List.forall_mem_cons.mp haccepted
    obtain ⟨items, hitems⟩ := ih hrest hothers
    exact ⟨⟨r, values, hr, hvalues⟩ :: items, congrArg (r :: ·) hitems⟩

theorem eq_map_writeStars {bounds : Bounds}
    (h : texts.map (expandWildcard bounds) = atoms.map .ok) :
    atoms = texts.map (writeStars bounds.text) := by
  have hatoms : atoms.map (Except.ok (ε := Fault)) =
      (texts.map (writeStars bounds.text)).map .ok := by
    rw [← h, List.map_map]
    refine List.map_congr_left fun t ht => ?_
    obtain ⟨atom, -, hatom⟩ := exists_result h ht
    rw [hatom, (expandWildcard_eq_ok_iff.mp hatom).2]
    rfl
  exact (List.map_inj_right fun _ _ => Except.ok.inj).mp hatoms

/-- The atoms of a list are those of its items, in the order of digits. -/
theorem compile_joined_eq_collect (hne : raws ≠ []) (hsingle : ∀ r ∈ raws, ',' ∉ r)
    (hspan : column.bounds.span = .ok column.bounds.text)
    (htexts : raws.map column.substitute = texts.map .ok)
    (hfine : Text.joined ',' texts ≠ [] ∧ ∀ c ∈ Text.joined ',' texts, isColumnCharacter c)
    (hshort : ∀ t ∈ texts, (digitsOf (writeStars column.bounds.text t)).length ≤ Text.digitLimit) :
    column.compile (Text.joined ',' raws) =
      column.collect [] (digitOrder (texts.map (writeStars column.bounds.text))) := by
  have hwhole := substitute_joined hne htexts
  have hcomma : ∀ t ∈ texts, ',' ∉ t := by
    intro t ht
    obtain ⟨r, hr, hrewritten⟩ := exists_entry htexts ht
    exact sign_not_mem_of_substitute rfl (hsingle r hr) hrewritten
  have htextsNe : texts ≠ [] := by
    rintro rfl
    exact hne (List.map_eq_nil_iff.mp htexts)
  have hpieces : Text.pieces ',' (writeStars column.bounds.text (Text.joined ',' texts)) =
      texts.map (writeStars column.bounds.text) := by
    rw [pieces_writeStars hwhole, Text.pieces_joined htextsNe hcomma]
  have hatomsNe : texts.map (writeStars column.bounds.text) ≠ [] :=
    fun h => htextsNe (List.map_eq_nil_iff.mp h)
  have hatoms := (atoms_eq_ok_iff hatomsNe hpieces).mpr
    ⟨hspan, fun _ => List.forall_mem_map.mpr hshort, rfl⟩
  exact compile_eq_collect hwhole hfine hatoms

/-- A list is accepted exactly if each item is. If it is refused although its names, characters
and stars are in order, then for the first of its atoms, in the order of digits, that fails, and that atom
fails whatever was collected before it. -/
theorem compile_list_item_by_item (hne : raws ≠ []) (hsingle : ∀ r ∈ raws, ',' ∉ r)
    (hshort : ∀ r ∈ raws, ∀ text expanded, column.substitute r = .ok text →
      expandWildcard column.bounds text = .ok expanded →
        (digitsOf expanded).length ≤ Text.digitLimit) :
    ((∃ values, column.compile (Text.joined ',' raws) = .ok values) ↔
        ∀ r ∈ raws, ∃ values, column.compile r = .ok values) ∧
      ∀ texts atoms, raws.map column.substitute = texts.map .ok →
        texts.map (expandWildcard column.bounds) = atoms.map .ok →
        (Text.joined ',' texts ≠ [] ∧ ∀ c ∈ Text.joined ',' texts, isColumnCharacter c) →
        ∀ collected fault, column.compile (Text.joined ',' raws) = .error fault ↔
          ∃ atom, FirstFault (column.add collected) (digitOrder atoms) atom fault := by
  constructor
  · constructor
    · rintro ⟨values, hvalues⟩ r hr
      have hpiece : r ∈ Text.pieces ',' (Text.joined ',' raws) := by
        rw [Text.pieces_joined hne hsingle]
        exact hr
      exact compile_of_mem_pieces hvalues hpiece
    · intro haccepted
      obtain ⟨items, rfl⟩ := exists_items hsingle haccepted
      have hitems : items ≠ [] := fun h => hne (List.map_eq_nil_iff.mpr h)
      refine ⟨_, (Item.compile_joined_eq_ok_iff hitems).mpr ⟨fun _ item hitem => ?_, rfl⟩⟩
      exact hshort item.raw (List.mem_map_of_mem hitem) item.text item.atom item.substitute_raw
        (expandWildcard_eq_ok_iff.mpr ⟨span_of_compile item.accepted, rfl⟩)
  · intro texts atoms htexts hatoms hfine collected fault
    obtain ⟨raw, hraw⟩ := List.exists_mem_of_ne_nil raws hne
    obtain ⟨text, htext, -⟩ := exists_result htexts hraw
    obtain ⟨atom, -, hatom⟩ := exists_result hatoms htext
    obtain ⟨hspan, -⟩ := expandWildcard_eq_ok_iff.mp hatom
    have hlimit : ∀ t ∈ texts,
        (digitsOf (writeStars column.bounds.text t)).length ≤ Text.digitLimit := by
      intro t ht
      obtain ⟨r, hr, hrewritten⟩ := exists_entry htexts ht
      exact hshort r hr t _ hrewritten (expandWildcard_eq_ok_iff.mpr ⟨hspan, rfl⟩)
    rw [compile_joined_eq_collect hne hsingle hspan htexts hfine hlimit, eq_map_writeStars hatoms]
    exact collect_eq_error_iff collected

end Column

namespace Field
open Column

def lateHours : List Text :=
  ["1-99".toList, "61".toList, "07".toList]

/-- The range stands first in the list but last in the order of digits, so 61 is reported. -/
theorem compile_list_item_by_item_hours :
    (lateHours ≠ [] ∧ (∀ r ∈ lateHours, ',' ∉ r) ∧
      ∀ r ∈ lateHours, ∀ text expanded, hour.column.substitute r = .ok text →
        expandWildcard hour.column.bounds text = .ok expanded →
          (digitsOf expanded).length ≤ Text.digitLimit) ∧
      (¬ ∃ values, hour.column.compile "1-99,61,07".toList = .ok values) ∧
        hour.column.compile "1-99,61,07".toList =
          .error (.parse (.valueOutside "hour" 61 hour.bounds)) := by
  have hne : lateHours ≠ [] := List.cons_ne_nil _ _
  have hsingle : ∀ r ∈ lateHours, ',' ∉ r := by decide
  have hshort : ∀ r ∈ lateHours, ∀ text expanded, hour.column.substitute r = .ok text →
      expandWildcard hour.column.bounds text = .ok expanded →
        (digitsOf expanded).length ≤ Text.digitLimit := by
    intro r hr text expanded htext hexpanded
    cases htext
    rw [(expandWildcard_eq_ok_iff.mp hexpanded).2]
    clear hexpanded
    revert r
    decide
  have htexts : lateHours.map hour.column.substitute = lateHours.map .ok := rfl
  have hatoms : lateHours.map (expandWildcard hour.column.bounds) = lateHours.map .ok := rfl
  have horder : digitOrder lateHours = ["07".toList, "61".toList, "1-99".toList] :=
    digitOrder_of_perm (by decide) (by decide)
  have hfirst : FirstFault (hour.column.add []) ["07".toList, "61".toList, "1-99".toList]
      "61".toList (.parse (.valueOutside "hour" 61 hour.bounds)) := by
    have hseven : hour.column.add [] "07".toList = .ok [7] := rfl
    have hmany : hour.column.add [] "61".toList =
        .error (.parse (.valueOutside "hour" 61 hour.bounds)) := rfl
    exact (firstFault_cons_of_ok hseven).mpr ((firstFault_cons_of_error hmany).mpr ⟨rfl, rfl⟩)
  obtain ⟨haccepted, hrefused⟩ := compile_list_item_by_item hne hsingle hshort
  refine ⟨⟨hne, hsingle, hshort⟩, fun h => ?_, ?_⟩
  · obtain ⟨values, hvalues⟩ := haccepted.mp h "61".toList (by decide)
    cases hvalues
  · refine (hrefused lateHours lateHours htexts hatoms
      ⟨List.cons_ne_nil _ _, by exact List.all_eq_true.mp rfl⟩ [] _).mpr ?_
    rw [horder]
    exact ⟨_, hfirst⟩

end Field
end Crontab
