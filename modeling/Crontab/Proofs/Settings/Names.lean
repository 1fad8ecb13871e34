import Crontab.Proofs.Reading
import Crontab.Proofs.Outcome
import Crontab.Proofs.Yaml.Keys
import Crontab.Settings.Readers

/-! # The names of loaded settings

References to variables are replaced in values and not in keys, and the home
directory is stored beside the schedules. So the names of loaded schedules are as
distinct as the keys of the document.
-/
namespace Crontab

namespace Environment
variable {env : Environment}

theorem resolveItems_eq_map (items : List Value) :
    (resolveItems env items).1 = items.map fun item => (resolve env item).1 := by
  induction items with
  | nil => rfl
  | cons item rest ih => exact congrArg ((resolve env item).1 :: ·) ih

theorem resolveEntries_eq_map (entries : List (Value × Value)) :
    (resolveEntries env entries).1 =
      entries.map fun entry => (entry.1, (resolve env entry.2).1) := by
  induction entries with
  | nil => rfl
  | cons entry rest ih => exact congrArg ((entry.1, (resolve env entry.2).1) :: ·) ih

theorem keysDistinct_resolve {v : Value} (h : v.KeysDistinct) :
    (resolve env v).1.KeysDistinct := by
  induction h with
  | null => exact .null
  | bool => exact .bool
  | int => exact .int
  | float => exact .float
  | text => exact .text
  | @list items h ih =>
    refine .list ?_
    rw [resolveItems_eq_map]
    exact List.forall_mem_map.mpr ih
  | @map entries hkeys h ih =>
    change Value.KeysDistinct (.map (resolveEntries env entries).1)
    rw [resolveEntries_eq_map]
    exact .map (List.pairwise_map.mpr hkeys) (List.forall_mem_map.mpr ih)

end Environment

namespace Value
variable {key t : Text} {v value : Value} {entries : List (Value × Value)}

theorem eq_text_of_textOnly (h : v.textOnly = .ok t) : v = .text t := by
  cases v with
  | text u =>
    cases h
    rfl
  | _ => cases h

theorem mem_of_lookup? (h : lookup? key entries = some v) : ∃ entry ∈ entries, entry.2 = v := by
  induction entries with
  | nil => cases h
  | cons first rest ih =>
    rw [lookup?] at h
    split at h
    · exact ⟨first, List.mem_cons_self, Option.some.inj h⟩
    · obtain ⟨entry, hentry, heq⟩ := ih h
      exact ⟨entry, List.mem_cons_of_mem _ hentry, heq⟩

theorem mem_store {entry : Value × Value} (h : entry ∈ store key value entries) :
    entry ∈ entries ∨ entry.2 = value := by
  induction entries with
  | nil =>
    rw [List.mem_singleton.mp h]
    exact Or.inr rfl
  | cons first rest ih =>
    rw [store] at h
    split at h
    · rcases List.mem_cons.mp h with rfl | hrest
      · exact Or.inr rfl
      · exact Or.inl (List.mem_cons_of_mem _ hrest)
    · rcases List.mem_cons.mp h with rfl | hrest
      · exact Or.inl List.mem_cons_self
      · exact (ih hrest).imp (List.mem_cons_of_mem _) id

end Value

namespace Readers

/-- The maps of all documents have distinct keys. -/
def DistinctKeys (r : Readers) : Prop :=
  ∀ {t v}, r.document t = .ok v → v.KeysDistinct

theorem distinctKeys_own : own.DistinctKeys := by
  intro t v h
  simp only [own, readYaml] at h
  split at h
  · cases h
  · next w hread =>
    cases h
    exact Yaml.keysDistinct_of_read? hread

end Readers

namespace Settings
open Checked
variable {settings : Settings} {schedules : List (Text × Text)} {entries : List (Value × Value)}

/-- The names read are the keys of the map. -/
theorem keys_of_readTexts (h : readTexts entries = .ok schedules) :
    entries.map Prod.fst = schedules.map fun entry => Value.text entry.1 := by
  induction entries generalizing schedules with
  | nil =>
    cases h
    rfl
  | cons entry rest ih =>
    obtain ⟨key, value⟩ := entry
    rw [readTexts, map_eq_ok_iff] at h
    obtain ⟨⟨⟨name, expression⟩, others⟩, hread, rfl⟩ := h
    simp only [both_eq_ok_iff, inside_eq_ok_iff] at hread
    rw [List.map_cons, List.map_cons, ih hread.2, Value.eq_text_of_textOnly hread.1.1]

theorem nodup_of_readSchedules {v : Value} (hv : v.KeysDistinct)
    (h : readSchedules v = .ok schedules) : (schedules.map Prod.fst).Nodup := by
  cases hv with
  | @map entries hkeys _ =>
    have hsame : (entries.map Prod.fst).Pairwise fun x y => Yaml.sameKey x y = false :=
      List.pairwise_map.mpr hkeys
    rw [keys_of_readTexts h, List.pairwise_map] at hsame
    refine List.pairwise_map.mpr (hsame.imp fun hxy heq => ?_)
    rw [heq, Yaml.sameKey, beq_self_eq_true] at hxy
    cases hxy
  | _ => cases h

theorem nodup_of_read {defaultHome : Text} (hentries : ∀ entry ∈ entries, entry.2.KeysDistinct)
    (h : read defaultHome entries = .ok settings) : (settings.schedules.map Prod.fst).Nodup := by
  simp only [read, forModel_eq_ok_iff, map_eq_ok_iff, both_eq_ok_iff] at h
  obtain ⟨⟨home, cron, level, schedules⟩, ⟨-, -, -, hschedules⟩, rfl⟩ := h
  rcases Value.optional_eq_ok_iff.mp hschedules with ⟨-, hnone⟩ | ⟨v, hv, hread⟩
  · rw [hnone]
    exact .nil
  · obtain ⟨entry, hentry, rfl⟩ := Value.mem_of_lookup? hv
    exact nodup_of_readSchedules (hentries entry hentry) hread

theorem keysDistinct_of_withHome {home? : Option Text} {document : Value}
    (hdocument : document.KeysDistinct) (h : withHome home? document = .ok (.map entries)) :
    ∀ entry ∈ entries, entry.2.KeysDistinct := by
  cases home? with
  | none =>
    cases h
    cases hdocument with
    | map _ hvalues => exact hvalues
  | some home =>
    cases hdocument with
    | map _ hvalues =>
      cases h
      intro entry hentry
      rcases Value.mem_store hentry with hmem | heq
      · exact hvalues entry hmem
      · rw [heq]
        exact .text
    | _ => cases h

theorem eq_map_of_entriesOf {document : Value} (h : entriesOf document = .ok entries) :
    document = .map entries := by
  cases document with
  | map others =>
    rw [entriesOf] at h
    split at h
    · cases h
      rfl
    · cases h
  | _ => cases h

theorem nodup_of_ofDocument {env : Environment} {defaultHome : Text} {document : Value}
    (hdocument : document.KeysDistinct) (h : ofDocument env defaultHome document = .ok settings) :
    (settings.schedules.map Prod.fst).Nodup := by
  obtain ⟨withHome, hhome, h⟩ := bind_eq_ok_iff.mp h
  obtain ⟨entries, hentries, h⟩ := bind_eq_ok_iff.mp h
  rw [mapError_eq_ok_iff] at hhome hentries
  rw [eq_map_of_entriesOf hentries] at hhome
  exact nodup_of_read (keysDistinct_of_withHome hdocument hhome) h

theorem keysDistinct_of_readDocument {r : Readers} {s : Surroundings} {path : Path}
    {document : Value} (hreader : r.DistinctKeys) (h : readDocument r s path = .ok document) :
    document.KeysDistinct := by
  unfold readDocument at h
  split at h
  · cases h
    exact Value.keysDistinct_map_nil
  · cases h
  · obtain ⟨v, hv, h⟩ := bind_eq_ok_iff.mp h
    cases h
    split
    · exact Value.keysDistinct_map_nil
    · exact hreader hv

/-- The schedules of loaded settings have distinct names. -/
theorem nodup_of_load {r : Readers} {s : Surroundings} {configPath? envPath? : Option Text}
    (hreader : r.DistinctKeys) (h : (load r s configPath? envPath?).1 = .ok settings) :
    (settings.schedules.map Prod.fst).Nodup := by
  unfold load at h
  split at h
  · cases h
  · next env document hfiles =>
    obtain ⟨home, -, hfiles⟩ := bind_eq_ok_iff.mp hfiles
    obtain ⟨other, -, hfiles⟩ := bind_eq_ok_iff.mp hfiles
    obtain ⟨found, hfound, hfiles⟩ := bind_eq_ok_iff.mp hfiles
    cases hfiles
    have hdistinct := keysDistinct_of_readDocument hreader hfound
    exact nodup_of_ofDocument (Environment.keysDistinct_resolve hdistinct) h

end Settings
end Crontab
