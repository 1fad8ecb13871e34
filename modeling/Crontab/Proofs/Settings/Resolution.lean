import Mathlib.Data.List.Forall2
import Crontab.Proofs.Settings.Names
import Crontab.Proofs.Settings.Substitution

/-! # Values with their references replaced

A value is determined by its shape and its texts. Main statement: the shape stays,
the texts are replaced one by one, and the names that are not set are reported text
by text. So only variables that the texts refer to play a part.
-/
namespace Crontab

namespace Value
variable {v w : Value}

/-- Induction over the members of lists and maps. The keys of maps are not members. -/
@[induction_eliminator]
theorem members {P : Value → Prop} (null : P .null) (bool : ∀ b, P (.bool b))
    (int : ∀ n, P (.int n)) (float : ∀ x, P (.float x)) (text : ∀ t, P (.text t))
    (list : ∀ items, (∀ item ∈ items, P item) → P (.list items))
    (map : ∀ entries, (∀ entry ∈ entries, P entry.2) → P (.map entries)) (v : Value) : P v :=
  @Value.rec P (fun items => ∀ item ∈ items, P item) (fun entries => ∀ entry ∈ entries, P entry.2)
    (fun entry => P entry.2) null bool int float text list map (List.forall_mem_nil _)
    (fun _ _ hitem hrest => List.forall_mem_cons.mpr ⟨hitem, hrest⟩) (List.forall_mem_nil _)
    (fun _ _ hentry hrest => List.forall_mem_cons.mpr ⟨hentry, hrest⟩) (fun _ _ _ hitem => hitem) v

mutual

/-- The texts of a value in order, without those in the keys of maps. -/
def texts : Value → List Text
  | .text t => [t]
  | .list items => textsOfItems items
  | .map entries => textsOfEntries entries
  | _ => []

def textsOfItems : List Value → List Text
  | [] => []
  | item :: rest => texts item ++ textsOfItems rest

def textsOfEntries : List (Value × Value) → List Text
  | [] => []
  | (_, item) :: rest => texts item ++ textsOfEntries rest

end

mutual

/-- What is left of a value when its texts are blanked out. The keys of maps are kept. -/
def shape : Value → Value
  | .text _ => .text []
  | .list items => .list (shapeOfItems items)
  | .map entries => .map (shapeOfEntries entries)
  | v => v

def shapeOfItems : List Value → List Value
  | [] => []
  | item :: rest => shape item :: shapeOfItems rest

def shapeOfEntries : List (Value × Value) → List (Value × Value)
  | [] => []
  | (key, item) :: rest => (key, shape item) :: shapeOfEntries rest

end

theorem texts_list (items : List Value) : (list items).texts = items.flatMap texts := by
  rw [texts]
  induction items with
  | nil => rfl
  | cons item rest ih => rw [textsOfItems, List.flatMap_cons, ih]

theorem texts_map (entries : List (Value × Value)) :
    (map entries).texts = entries.flatMap fun entry => entry.2.texts := by
  rw [texts]
  induction entries with
  | nil => rfl
  | cons entry rest ih => rw [textsOfEntries, List.flatMap_cons, ih]

theorem shape_list (items : List Value) : (list items).shape = .list (items.map shape) := by
  rw [shape]
  congr 1
  induction items with
  | nil => rfl
  | cons item rest ih => rw [shapeOfItems, List.map_cons, ih]

theorem shape_map (entries : List (Value × Value)) :
    (map entries).shape = .map (entries.map fun entry => (entry.1, entry.2.shape)) := by
  rw [shape]
  congr 1
  induction entries with
  | nil => rfl
  | cons entry rest ih => rw [shapeOfEntries, List.map_cons, ih]

/-- Lists of one shape and with the same texts are equal, if each member of the first can be told
from its shape and the front of the texts. -/
theorem eq_of_flatMap_append {α β γ : Type} {shapeOf : α → β} {textsOf : α → List γ}
    {as bs : List α} {xs ys : List γ}
    (h : ∀ a ∈ as, ∀ {b xs ys}, shapeOf a = shapeOf b → textsOf a ++ xs = textsOf b ++ ys →
      a = b ∧ xs = ys)
    (hshape : as.map shapeOf = bs.map shapeOf)
    (htexts : as.flatMap textsOf ++ xs = bs.flatMap textsOf ++ ys) : as = bs ∧ xs = ys := by
  induction as generalizing bs with
  | nil =>
    obtain rfl := List.map_eq_nil_iff.mp hshape.symm
    exact ⟨rfl, htexts⟩
  | cons a as ih =>
    cases bs with
    | nil => cases hshape
    | cons b bs =>
      obtain ⟨hhead, htail⟩ := List.cons.inj hshape
      rw [List.flatMap_cons, List.flatMap_cons, List.append_assoc, List.append_assoc] at htexts
      obtain ⟨rfl, hrest⟩ := h a List.mem_cons_self hhead htexts
      obtain ⟨rfl, hback⟩ := ih (fun a ha => h a (List.mem_cons_of_mem _ ha)) htail hrest
      exact ⟨rfl, hback⟩

theorem eq_of_texts_append {xs ys : List Text} (hshape : v.shape = w.shape)
    (htexts : v.texts ++ xs = w.texts ++ ys) : v = w ∧ xs = ys := by
  induction v generalizing w xs ys with
  | list items ih =>
    cases w with
    | list others =>
      rw [shape_list, shape_list, list.injEq] at hshape
      rw [texts_list, texts_list] at htexts
      obtain ⟨rfl, hback⟩ := eq_of_flatMap_append (fun item hitem => ih item hitem) hshape htexts
      exact ⟨rfl, hback⟩
    | _ => simp [shape] at hshape
  | map entries ih =>
    cases w with
    | map others =>
      rw [shape_map, shape_map, map.injEq] at hshape
      rw [texts_map, texts_map] at htexts
      refine (eq_of_flatMap_append ?_ hshape htexts).imp_left (congrArg map)
      intro entry hentry other xs ys hboth hfront
      obtain ⟨hkey, hitem⟩ := Prod.mk.inj hboth
      obtain ⟨hvalue, hback⟩ := ih entry hentry hitem hfront
      exact ⟨Prod.ext hkey hvalue, hback⟩
    | _ => simp [shape] at hshape
  | text t =>
    cases w with
    | text u => simpa [texts] using htexts
    | _ => simp [shape] at hshape
  | _ =>
    cases w with
    | _ => simp_all [shape, texts]

theorem eq_of_shape_of_texts (hshape : v.shape = w.shape) (htexts : v.texts = w.texts) : v = w :=
  (eq_of_texts_append hshape (congrArg (· ++ []) htexts)).1

end Value

namespace Environment
variable {env other : Environment} {v w : Value}

theorem unset_resolveItems (items : List Value) :
    (resolveItems env items).2 = items.flatMap fun item => (resolve env item).2 := by
  induction items with
  | nil => rfl
  | cons item rest ih =>
    rw [List.flatMap_cons, ← ih]
    rfl

theorem unset_resolveEntries (entries : List (Value × Value)) :
    (resolveEntries env entries).2 = entries.flatMap fun entry => (resolve env entry.2).2 := by
  induction entries with
  | nil => rfl
  | cons entry rest ih =>
    rw [List.flatMap_cons, ← ih]
    rfl

theorem resolve_list (items : List Value) : resolve env (.list items) =
    (.list (items.map fun item => (resolve env item).1),
      items.flatMap fun item => (resolve env item).2) := by
  rw [← resolveItems_eq_map, ← unset_resolveItems]
  rfl

theorem resolve_map (entries : List (Value × Value)) : resolve env (.map entries) =
    (.map (entries.map fun entry => (entry.1, (resolve env entry.2).1)),
      entries.flatMap fun entry => (resolve env entry.2).2) := by
  rw [← resolveEntries_eq_map, ← unset_resolveEntries]
  rfl

theorem shape_resolve (env : Environment) (v : Value) : (resolve env v).1.shape = v.shape := by
  induction v with
  | list items ih =>
    rw [resolve_list, Value.shape_list, Value.shape_list, List.map_map]
    congr 1
    apply List.map_congr_left
    intro item hitem
    exact ih item hitem
  | map entries ih =>
    rw [resolve_map, Value.shape_map, Value.shape_map, List.map_map]
    congr 1
    apply List.map_congr_left
    intro entry hentry
    simp [ih entry hentry]
  | _ => rfl

theorem texts_resolve (env : Environment) (v : Value) :
    (resolve env v).1.texts = v.texts.map fun t => (substitute env t).1 := by
  induction v with
  | list items ih =>
    rw [resolve_list, Value.texts_list, Value.texts_list, List.flatMap_map, List.map_flatMap]
    exact List.flatMap_congr ih
  | map entries ih =>
    rw [resolve_map, Value.texts_map, Value.texts_map, List.flatMap_map, List.map_flatMap]
    exact List.flatMap_congr ih
  | _ => rfl

theorem unset_resolve (env : Environment) (v : Value) :
    (resolve env v).2 = v.texts.flatMap fun t => (substitute env t).2 := by
  induction v with
  | list items ih =>
    rw [resolve_list, Value.texts_list, List.flatMap_assoc]
    exact List.flatMap_congr ih
  | map entries ih =>
    rw [resolve_map, Value.texts_map, List.flatMap_assoc]
    exact List.flatMap_congr ih
  | text t => exact (List.append_nil _).symm
  | _ => rfl

/-- What a value is resolved to is determined by its shape and what replaces its texts. -/
theorem resolve_eq_iff_substitute {unset : List Text} : resolve env v = (w, unset) ↔
    w.shape = v.shape ∧ w.texts = v.texts.map (fun t => (substitute env t).1) ∧
      unset = v.texts.flatMap fun t => (substitute env t).2 := by
  constructor
  · intro h
    have hshape := shape_resolve env v
    have htexts := texts_resolve env v
    have hunset := unset_resolve env v
    rw [h] at hshape htexts hunset
    exact ⟨hshape, htexts, hunset⟩
  · rintro ⟨hshape, htexts, rfl⟩
    rw [← shape_resolve env v] at hshape
    rw [← texts_resolve env v] at htexts
    rw [Value.eq_of_shape_of_texts hshape htexts, ← unset_resolve env v]

theorem resolve_congr (h : ∀ t ∈ v.texts, substitute env t = substitute other t) :
    resolve other v = resolve env v := by
  refine resolve_eq_iff_substitute.mpr ⟨shape_resolve env v, ?_, ?_⟩
  · rw [texts_resolve]
    apply List.map_congr_left
    intro t ht
    rw [h t ht]
  · rw [unset_resolve]
    apply List.flatMap_congr
    intro t ht
    rw [h t ht]

theorem forall₂_expanded_iff {ts : List Text} {replaced : List (Text × List Text)} :
    List.Forall₂ (fun t r => Expanded env t r.1 r.2) ts replaced ↔
      replaced = ts.map (substitute env) := by
  simp only [← substitute_eq_iff_expanded]
  rw [← List.forall₂_map_left_iff, List.forall₂_eq_eq_eq, eq_comm]

/-- References are replaced in every text of a value and nowhere else, each text by itself, and the
names that are not set are reported in the order of the texts. Only the variables that the texts
refer to are used. -/
theorem resolve_eq_iff (env : Environment) (v : Value) :
    (∀ w unset, resolve env v = (w, unset) ↔
        ∃ replaced : List (Text × List Text),
          List.Forall₂ (fun t r => Expanded env t r.1 r.2) v.texts replaced ∧
            w.shape = v.shape ∧ w.texts = replaced.map Prod.fst ∧
            unset = replaced.flatMap Prod.snd) ∧
      ∀ other : Environment,
        (∀ t ∈ v.texts, ∀ name, Mentions t name → env.lookup name = other.lookup name) →
          resolve other v = resolve env v := by
  constructor
  · intro w unset
    rw [resolve_eq_iff_substitute]
    simp only [forall₂_expanded_iff, exists_eq_left, List.map_map, List.flatMap_map]
    rfl
  · intro other hagree
    apply resolve_congr
    intro t ht
    exact substitute_congr (hagree t ht)

/-- One reference in braces of its own, and two behind a dollar sign. -/
def nested : Value :=
  .map [(.text (written ['A']), .text ("$\x7b".toList ++ written ['A'] ++ "\x7d".toList)),
    (.text ['j'], .list [.int 3, .text (['$'] ++ written ['A'] ++ written ['B'])])]

/-- The key stays, the text of a variable is not searched, and one name is reported. -/
theorem resolve_nested :
    resolve [(['A'], written ['C'])] nested =
        (.map [(.text (written ['A']), .text ("$\x7b".toList ++ written ['C'] ++ "\x7d".toList)),
          (.text ['j'], .list [.int 3, .text (['$'] ++ written ['C'] ++ written ['B'])])],
          [['B']]) ∧
      resolve [(['C'], ['c']), (['A'], written ['C'])] nested =
        resolve [(['A'], written ['C'])] nested := by
  obtain ⟨env, henv⟩ : ∃ env : Environment, env = [(['A'], written ['C'])] := ⟨_, rfl⟩
  have hset : env.lookup ['A'] = some (written ['C']) := by simp [henv]
  have hmissing : env.lookup ['B'] = none := by simp [henv]
  have hplain (t : Text) (h : '$' ∉ t ∨ '\x7d' ∉ t) : Expanded env t t [] := by
    apply Expanded.plain
    intro name hmentions
    rcases h with h | h
    · exact h (mem_of_mentions hmentions).1
    · exact h (mem_of_mentions hmentions).2
  have hinner : Expanded env ("$\x7b".toList ++ written ['A'] ++ "\x7d".toList)
      ("$\x7b".toList ++ written ['C'] ++ "\x7d".toList) [] :=
    .set (by decide) hset (hplain _ (by decide)) (hplain _ (by decide))
  have hlast : Expanded env (written ['B']) (written ['B']) [['B']] :=
    .unset (by decide) hmissing (hplain [] (by decide)) (hplain [] (by decide))
  have houter : Expanded env (['$'] ++ written ['A'] ++ written ['B'])
      (['$'] ++ written ['C'] ++ written ['B']) [['B']] :=
    .set (by decide) hset (hplain _ (by decide)) hlast
  have hunused : ∀ t ∈ nested.texts, ¬ Mentions t ['C'] := by decide
  obtain ⟨hresolved, hcongr⟩ := resolve_eq_iff env nested
  rw [← henv]
  refine ⟨(hresolved _ _).mpr ⟨[(_, []), (_, [['B']])], ?_, rfl, rfl, rfl⟩, ?_⟩
  · exact .cons hinner (.cons houter .nil)
  · apply hcongr
    intro t ht name hmentions
    have hne : (name == ['C']) = false := by
      apply beq_false_of_ne
      rintro rfl
      exact hunused t ht hmentions
    rw [List.lookup_cons, hne]

end Environment
end Crontab
