import Crontab.Yaml.Document

/-! # The keys of documents

Of several entries under one key a map keeps one. So a document that is read has
distinct keys in all of its maps, however deep they lie.
-/
namespace Crontab

/-- In every map inside the value, no two keys are the same. -/
inductive Value.KeysDistinct : Value → Prop
  | null : KeysDistinct .null
  | bool {b : Bool} : KeysDistinct (.bool b)
  | int {n : Int} : KeysDistinct (.int n)
  | float {x : Binary64} : KeysDistinct (.float x)
  | text {t : Text} : KeysDistinct (.text t)
  | list {items : List Value} (h : ∀ item ∈ items, item.KeysDistinct) : KeysDistinct (.list items)
  | map {entries : List (Value × Value)}
    (hkeys : entries.Pairwise fun x y => Yaml.sameKey x.1 y.1 = false)
    (h : ∀ entry ∈ entries, entry.2.KeysDistinct) : KeysDistinct (.map entries)

theorem Value.keysDistinct_map_nil : Value.KeysDistinct (.map []) :=
  .map .nil (List.forall_mem_nil _)

namespace Yaml
variable {ts after : List Lexeme} {v : Value}

section Maps
variable {key value : Value} {entry : Value × Value} {stored entries : List (Value × Value)}

theorem mem_put (h : entry ∈ put key value stored) :
    entry ∈ stored ∨ entry.2 = value ∧ (entry.1 = key ∨ ∃ other ∈ stored, other.1 = entry.1) := by
  induction stored with
  | nil =>
    rw [List.mem_singleton.mp h]
    exact Or.inr ⟨rfl, Or.inl rfl⟩
  | cons first rest ih =>
    rw [put] at h
    split at h
    · rcases List.mem_cons.mp h with rfl | hrest
      · exact Or.inr ⟨rfl, Or.inr ⟨first, List.mem_cons_self, rfl⟩⟩
      · exact Or.inl (List.mem_cons_of_mem _ hrest)
    · rcases List.mem_cons.mp h with rfl | hrest
      · exact Or.inl List.mem_cons_self
      · rcases ih hrest with hstored | ⟨hvalue, hkey | ⟨other, hother, heq⟩⟩
        · exact Or.inl (List.mem_cons_of_mem _ hstored)
        · exact Or.inr ⟨hvalue, Or.inl hkey⟩
        · exact Or.inr ⟨hvalue, Or.inr ⟨other, List.mem_cons_of_mem _ hother, heq⟩⟩

theorem pairwise_put (h : stored.Pairwise fun x y => sameKey x.1 y.1 = false) :
    (put key value stored).Pairwise fun x y => sameKey x.1 y.1 = false := by
  induction stored with
  | nil => exact List.pairwise_singleton _ _
  | cons first rest ih =>
    obtain ⟨hfirst, hrest⟩ := List.pairwise_cons.mp h
    rw [put]
    split
    · exact List.pairwise_cons.mpr ⟨hfirst, hrest⟩
    · next hother =>
      refine List.pairwise_cons.mpr ⟨fun entry hentry => ?_, ih hrest⟩
      rcases mem_put hentry with hstored | ⟨-, hkey | ⟨other, hmem, heq⟩⟩
      · exact hfirst entry hstored
      · rw [hkey]
        exact Bool.eq_false_iff.mpr hother
      · rw [← heq]
        exact hfirst other hmem

theorem keysDistinct_put (h : Value.KeysDistinct (.map stored)) (hvalue : value.KeysDistinct) :
    Value.KeysDistinct (.map (put key value stored)) := by
  cases h with
  | map hkeys hstored =>
    refine .map (pairwise_put hkeys) fun entry hentry => ?_
    rcases mem_put hentry with hmem | ⟨heq, -⟩
    · exact hstored entry hmem
    · rw [heq]
      exact hvalue

theorem keysDistinct_mapOf (h : ∀ entry ∈ entries, entry.2.KeysDistinct) :
    (mapOf entries).KeysDistinct := by
  have hfold : ∀ stored, Value.KeysDistinct (.map stored) → Value.KeysDistinct
      (.map (entries.foldl (fun stored entry => put entry.1 entry.2 stored) stored)) := by
    induction entries with
    | nil => exact fun stored hstored => hstored
    | cons first rest ih =>
      intro stored hstored
      exact ih (fun entry hentry => h entry (List.mem_cons_of_mem _ hentry)) _
        (keysDistinct_put hstored (h first List.mem_cons_self))
  exact hfold [] Value.keysDistinct_map_nil

end Maps

theorem keysDistinct_scalar (t : Text) : (scalar t).KeysDistinct := by
  unfold scalar
  repeat' split
  all_goals constructor

theorem keysDistinct_of_scalarOf? {token : Token} (h : scalarOf? token = some v) :
    v.KeysDistinct := by
  cases token with
  | plain t =>
    cases h
    exact keysDistinct_scalar t
  | quoted t =>
    cases h
    exact .text
  | _ => cases h

theorem forall_mem_of_map_cons {α : Type} {p : α → Prop} {first : α} {all : List α}
    {others? : Option (List α × List Lexeme)}
    (h : others?.map (fun read => (first :: read.1, read.2)) = some (all, after)) (hfirst : p first)
    (hothers : ∀ {others rest}, others? = some (others, rest) → ∀ a ∈ others, p a) :
    ∀ a ∈ all, p a := by
  obtain ⟨⟨others, rest⟩, heq, hall⟩ := Option.map_eq_some_iff.mp h
  cases hall
  exact List.forall_mem_cons.mpr ⟨hfirst, hothers heq⟩

/-! The readers call each other on what is left of the lexemes, or on all of them in a fixed order.
So a bound on the number of lexemes carries the induction, and the readers stand in that order. -/

/-- What is read in brackets from less than a number of lexemes has distinct keys. -/
structure FlowDistinct (n : Nat) : Prop where
  value : ∀ {ts v after}, ts.length < n → readFlow ts = some (v, after) → v.KeysDistinct
  items : ∀ {ts items after}, ts.length < n → readFlowItems ts = some (items, after) →
    ∀ item ∈ items, item.KeysDistinct
  entries : ∀ {ts entries after}, ts.length < n → readFlowEntries ts = some (entries, after) →
    ∀ entry ∈ entries, entry.2.KeysDistinct

namespace FlowDistinct
variable {n : Nat}

theorem readFlow_succ (ih : FlowDistinct n) (hlength : ts.length < n + 1)
    (h : readFlow ts = some (v, after)) : v.KeysDistinct := by
  unfold readFlow at h
  split at h
  · cases h
  · rename_i first rest
    have hrest : rest.length < n := Nat.lt_of_succ_lt_succ hlength
    split at h
    · obtain ⟨⟨items, _⟩, hitems, heq⟩ := Option.map_eq_some_iff.mp h
      cases heq
      exact .list (ih.items hrest hitems)
    · obtain ⟨⟨entries, _⟩, hentries, heq⟩ := Option.map_eq_some_iff.mp h
      cases heq
      exact keysDistinct_mapOf (ih.entries hrest hentries)
    · obtain ⟨u, hscalar, heq⟩ := Option.map_eq_some_iff.mp h
      cases heq
      exact keysDistinct_of_scalarOf? hscalar

theorem readFlowItems_succ (ih : FlowDistinct n) {items : List Value} (hlength : ts.length < n + 1)
    (h : readFlowItems ts = some (items, after)) : ∀ item ∈ items, item.KeysDistinct := by
  unfold readFlowItems at h
  split at h
  · cases h
  · split at h
    · cases h
      exact List.forall_mem_nil _
    · split at h
      · next hflow =>
        cases h
        exact List.forall_mem_singleton.mpr (ih.readFlow_succ hlength hflow)
      · next hflow =>
        split at h
        · next hshorter =>
          have hafter := Nat.lt_of_lt_of_le hshorter (Nat.le_of_lt_succ hlength)
          exact forall_mem_of_map_cons h (ih.readFlow_succ hlength hflow) (ih.items hafter)
        · cases h
      · cases h

theorem readFlowEntries_succ (ih : FlowDistinct n) {entries : List (Value × Value)}
    (hlength : ts.length < n + 1) (h : readFlowEntries ts = some (entries, after)) :
    ∀ entry ∈ entries, entry.2.KeysDistinct := by
  unfold readFlowEntries at h
  split at h
  · cases h
  · rename_i first rest
    have hrest : rest.length < n := Nat.lt_of_succ_lt_succ hlength
    split at h
    · cases h
      exact List.forall_mem_nil _
    · split at h
      · cases h
      · extract_lets value? at h
        have hvalue : ∀ value next, value? = some (value, next) → value.KeysDistinct := by
          intro value next hvalue
          unfold value? at hvalue
          split at hvalue
          · cases hvalue
            exact .null
          · cases hvalue
            exact .null
          · exact ih.value (Nat.lt_of_succ_lt hrest) hvalue
          · cases hvalue
            exact .null
        clear_value value?
        split at h
        · cases h
          exact List.forall_mem_singleton.mpr (hvalue _ _ rfl)
        · split at h
          · next hshorter =>
            have hafter := Nat.lt_of_lt_of_le hshorter hrest
            exact forall_mem_of_map_cons h (hvalue _ _ rfl) (ih.entries hafter)
          · cases h
        · cases h

theorem all (n : Nat) : FlowDistinct n := by
  induction n with
  | zero => exact ⟨nofun, nofun, nofun⟩
  | succ n ih => exact ⟨ih.readFlow_succ, ih.readFlowItems_succ, ih.readFlowEntries_succ⟩

end FlowDistinct

theorem keysDistinct_readFlow (h : readFlow ts = some (v, after)) : v.KeysDistinct :=
  (FlowDistinct.all (ts.length + 1)).value (Nat.lt_succ_self _) h

/-- What is read in blocks from less than a number of lexemes has distinct keys. -/
structure BlockDistinct (n : Nat) : Prop where
  node : ∀ {least ts v after}, ts.length < n → readNode least ts = some (v, after) → v.KeysDistinct
  items : ∀ {column ts items after}, ts.length < n → readItems column ts = some (items, after) →
    ∀ item ∈ items, item.KeysDistinct
  entries : ∀ {column ts entries after}, ts.length < n →
    readEntries column ts = some (entries, after) → ∀ entry ∈ entries, entry.2.KeysDistinct
  value : ∀ {column line ts v after}, ts.length < n →
    readEntryValue column line ts = some (v, after) → v.KeysDistinct

namespace BlockDistinct
variable {n least column line : Nat}

theorem readItems_succ (ih : BlockDistinct n) {items : List Value} (hlength : ts.length < n + 1)
    (h : readItems column ts = some (items, after)) : ∀ item ∈ items, item.KeysDistinct := by
  unfold readItems at h
  split at h
  · cases h
    exact List.forall_mem_nil _
  · rename_i first rest
    have hrest : rest.length < n := Nat.lt_of_succ_lt_succ hlength
    split at h
    · split at h
      · next hnode =>
        split at h
        · next hshorter =>
          have hafter := Nat.lt_of_lt_of_le hshorter hrest
          exact forall_mem_of_map_cons h (ih.node hrest hnode) (ih.items hafter)
        · cases h
      · cases h
    · cases h
      exact List.forall_mem_nil _

theorem readEntries_succ (ih : BlockDistinct n) {entries : List (Value × Value)}
    (hlength : ts.length < n + 1) (h : readEntries column ts = some (entries, after)) :
    ∀ entry ∈ entries, entry.2.KeysDistinct := by
  unfold readEntries at h
  split at h
  · rename_i key colon rest
    have hrest : rest.length + 1 < n := Nat.lt_of_succ_lt_succ hlength
    split at h
    · split at h
      · next hvalue =>
        split at h
        · next hshorter =>
          have hafter := Nat.lt_of_lt_of_le hshorter hrest
          exact forall_mem_of_map_cons h (ih.value (Nat.lt_of_succ_lt hrest) hvalue)
            (ih.entries hafter)
        · cases h
      · cases h
    · cases h
      exact List.forall_mem_nil _
  · cases h
    exact List.forall_mem_nil _

theorem readNode_succ (ih : BlockDistinct n) (hlength : ts.length < n + 1)
    (h : readNode least ts = some (v, after)) : v.KeysDistinct := by
  unfold readNode at h
  split at h
  · cases h
    exact .null
  · split at h
    · cases h
      exact .null
    · split at h
      · obtain ⟨⟨items, _⟩, hitems, heq⟩ := Option.map_eq_some_iff.mp h
        cases heq
        exact .list (ih.readItems_succ hlength hitems)
      · split at h
        · obtain ⟨⟨entries, _⟩, hentries, heq⟩ := Option.map_eq_some_iff.mp h
          cases heq
          exact keysDistinct_mapOf (ih.readEntries_succ hlength hentries)
        · exact keysDistinct_readFlow h

theorem readEntryValue_succ (ih : BlockDistinct n) (hlength : ts.length < n + 1)
    (h : readEntryValue column line ts = some (v, after)) : v.KeysDistinct := by
  unfold readEntryValue at h
  split at h
  · cases h
    exact .null
  · split at h
    · split at h
      · cases h
      · exact keysDistinct_readFlow h
    · split at h
      · obtain ⟨⟨items, _⟩, hitems, heq⟩ := Option.map_eq_some_iff.mp h
        cases heq
        exact .list (ih.readItems_succ hlength hitems)
      · exact ih.readNode_succ hlength h

theorem all (n : Nat) : BlockDistinct n := by
  induction n with
  | zero => exact ⟨nofun, nofun, nofun, nofun⟩
  | succ n ih =>
    exact ⟨ih.readNode_succ, ih.readItems_succ, ih.readEntries_succ, ih.readEntryValue_succ⟩

end BlockDistinct

/-- The maps of a document have distinct keys. -/
theorem keysDistinct_of_read? {t : Text} (h : read? t = some v) : v.KeysDistinct := by
  unfold read? at h
  split at h
  · obtain ⟨ts, -, h⟩ := Option.bind_eq_some_iff.mp h
    obtain ⟨⟨u, rest⟩, hnode, h⟩ := Option.bind_eq_some_iff.mp h
    cases rest with
    | nil =>
      cases h
      exact (BlockDistinct.all (ts.length + 1)).node (Nat.lt_succ_self _) hnode
    | cons _ _ => cases h
  · cases h

end Yaml
end Crontab
