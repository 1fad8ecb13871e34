import Crontab.Proofs.Settings.Resolution

/-! # When loading ends in a report

A document is checked entry by entry only if it is a map of texts to values. All
other documents end in a fault before that, and so does a home directory that is
not known. Main statement: nothing else keeps a fault of the settings from being
reported. How documents are read makes no difference to that.
-/
namespace Crontab

namespace Value
variable {entries : List (Value × Value)} {v value : Value}

/-- Every key is a text. -/
def TextKeys (entries : List (Value × Value)) : Prop :=
  ∀ entry ∈ entries, ∃ t, entry.1 = .text t

theorem isSome_text?_iff : v.text?.isSome = true ↔ ∃ t, v = .text t := by
  cases v with
  | text t => exact iff_of_true rfl ⟨t, rfl⟩
  | _ => exact iff_of_false nofun nofun

/-- Storing under a text changes nothing about the other keys. -/
theorem textKeys_store_iff {key : Text} :
    TextKeys (store key value entries) ↔ TextKeys entries := by
  unfold TextKeys
  induction entries with
  | nil => simp [store]
  | cons first rest ih =>
    obtain ⟨k, v⟩ := first
    rw [store]
    split
    · simp only [List.forall_mem_cons]
    · simp only [List.forall_mem_cons, ih]

/-- The value is a map whose entries have names. -/
def IsNamed (v : Value) : Prop :=
  ∃ entries, v = .map entries ∧ TextKeys entries

theorem isNamed_map_iff : (map entries).IsNamed ↔ TextKeys entries := by
  constructor
  · rintro ⟨others, heq, hkeys⟩
    cases heq
    exact hkeys
  · intro hkeys
    exact ⟨entries, rfl, hkeys⟩

end Value

/-- References are replaced in values only. -/
theorem Environment.isNamed_resolve_iff (env : Environment) (v : Value) :
    (resolve env v).1.IsNamed ↔ v.IsNamed := by
  cases v with
  | map entries =>
    rw [resolve_map, Value.isNamed_map_iff, Value.isNamed_map_iff]
    unfold Value.TextKeys
    rw [List.forall_mem_map]
  | list items =>
    rw [resolve_list]
    exact iff_of_false nofun nofun
  | _ => exact iff_of_false nofun nofun

namespace FileEntry

/-- The file is missing, or its document is empty, or a map whose entries have names. -/
def IsNamed (r : Readers) : FileEntry → Prop
  | .missing => True
  | .directory => False
  | .file contents =>
    ∃ v, r.document (unifiedLines contents) = .ok v ∧ (v.isVoid = true ∨ v.IsNamed)

end FileEntry

namespace Settings
variable {env : Environment} {defaultHome : Text} {document : Value}

/-- Settings are loaded, or everything that is wrong with them is reported. -/
def LoadsOrReports (x : Except Fault Settings) : Prop :=
  (∃ settings, x = .ok settings) ∨ ∃ report, x = .error (.invalid report)

theorem loadsOrReports_read (defaultHome : Text) (entries : List (Value × Value)) :
    LoadsOrReports (read defaultHome entries) := by
  unfold read Checked.forModel
  split
  · exact .inl ⟨_, rfl⟩
  · exact .inr ⟨_, rfl⟩

theorem not_loadsOrReports (cause : SettingsError) :
    ¬ LoadsOrReports (.error (.settings cause)) := by
  rintro (⟨settings, h⟩ | ⟨report, h⟩)
  · cases h
  · cases h

theorem loadsOrReports_entries_iff :
    LoadsOrReports ((entriesOf document).mapError .settings >>= read defaultHome) ↔
      document.IsNamed := by
  cases document with
  | map entries =>
    rw [entriesOf, Value.isNamed_map_iff]
    split
    · next hall =>
      refine iff_of_true (loadsOrReports_read defaultHome entries) fun entry hentry => ?_
      exact Value.isSome_text?_iff.mp (List.all_eq_true.mp hall entry hentry)
    · next hall =>
      refine iff_of_false (not_loadsOrReports _) fun hkeys => hall ?_
      apply List.all_eq_true.mpr
      intro entry hentry
      exact Value.isSome_text?_iff.mpr (hkeys entry hentry)
  | _ =>
    refine iff_of_false (not_loadsOrReports _) ?_
    rintro ⟨entries, h, -⟩
    cases h

/-- A variable for the home directory adds an entry with a name. It cannot be put into a list or a
scalar, but neither would these be read without it. -/
theorem loadsOrReports_ofDocument_iff :
    LoadsOrReports (ofDocument env defaultHome document) ↔ document.IsNamed := by
  unfold ofDocument
  cases env.lookup homeVariable with
  | none => exact loadsOrReports_entries_iff
  | some home =>
    cases document with
    | map entries =>
      rw [Value.isNamed_map_iff, ← Value.textKeys_store_iff, ← Value.isNamed_map_iff]
      exact loadsOrReports_entries_iff
    | _ =>
      refine iff_of_false (not_loadsOrReports _) ?_
      rintro ⟨entries, h, -⟩
      cases h

theorem isNamed_orEmpty_iff {v : Value} :
    (if v.isVoid = true then Value.map [] else v).IsNamed ↔ v.isVoid = true ∨ v.IsNamed := by
  split
  · next h => exact iff_of_true ⟨[], rfl, List.forall_mem_nil _⟩ (.inl h)
  · next h => exact ⟨.inr, fun hv => hv.resolve_left h⟩

theorem exists_readDocument_iff {r : Readers} {s : Surroundings} {path : Path} :
    (∃ document, readDocument r s path = .ok document ∧ document.IsNamed) ↔
      (s.files path).IsNamed r := by
  unfold readDocument
  cases s.files path with
  | missing => exact iff_of_true ⟨_, rfl, [], rfl, List.forall_mem_nil _⟩ trivial
  | directory =>
    refine iff_of_false ?_ id
    rintro ⟨document, h, -⟩
    cases h
  | file contents =>
    simp only [FileEntry.IsNamed, ← isNamed_orEmpty_iff, bind_eq_ok_iff, pure_eq_ok_iff]
    constructor
    · rintro ⟨document, ⟨v, hv, rfl⟩, hnamed⟩
      exact ⟨v, hv, hnamed⟩
    · rintro ⟨v, hv, hnamed⟩
      exact ⟨_, ⟨v, hv, rfl⟩, hnamed⟩

theorem loadsOrReports_load_iff {r : Readers} {s : Surroundings}
    {configPath? envPath? : Option Text} :
    LoadsOrReports (load r s configPath? envPath?).1 ↔
      ∃ env document, readFiles r s configPath? envPath? = .ok (env, document) ∧
        document.IsNamed := by
  unfold load
  cases readFiles r s configPath? envPath? with
  | error cause =>
    refine iff_of_false (not_loadsOrReports cause) ?_
    rintro ⟨env, document, h, -⟩
    cases h
  | ok found =>
    obtain ⟨env, document⟩ := found
    dsimp only
    rw [loadsOrReports_ofDocument_iff, Environment.isNamed_resolve_iff]
    constructor
    · intro hnamed
      exact ⟨env, document, rfl, hnamed⟩
    · rintro ⟨_, _, h, hnamed⟩
      cases h
      exact hnamed

theorem exists_readFiles_iff {r : Readers} {s : Surroundings}
    {configPath? envPath? : Option Text} :
    (∃ env document, readFiles r s configPath? envPath? = .ok (env, document) ∧
        document.IsNamed) ↔
      ∃ home env, homeIn s = .ok home ∧
        loadEnvironment r s (locate envPath? home ".env") = .ok env ∧
        (s.files (locate configPath? home "config.yaml")).IsNamed r := by
  simp only [readFiles, bind_eq_ok_iff, pure_eq_ok_iff, ← exists_readDocument_iff, Prod.mk.injEq]
  constructor
  · rintro ⟨_, _, ⟨home, hhome, env, henv, document, hdocument, rfl, rfl⟩, hnamed⟩
    exact ⟨home, env, hhome, henv, document, hdocument, hnamed⟩
  · rintro ⟨home, env, hhome, henv, document, hdocument, hnamed⟩
    exact ⟨env, document, ⟨home, hhome, env, henv, document, hdocument, rfl, rfl⟩, hnamed⟩

/-- A document is loaded or reported exactly if it is empty or a map whose keys are texts, whatever
the variables are. So loading ends in settings or in a report exactly if the home directory is
found, the dotenv file, if there is one, can be taken over, and the file of settings, if there is
one, holds such a document. That is so for all readers. -/
theorem loadsOrReports_iff (env : Environment) (defaultHome : Text) (v : Value) (r : Readers)
    (s : Surroundings) (configPath? envPath? : Option Text) :
    (LoadsOrReports (ofDocument env defaultHome
          (Environment.resolve env (if v.isVoid then .map [] else v)).1) ↔
        v.isVoid = true ∨ ∃ entries, v = .map entries ∧ ∀ entry ∈ entries, ∃ t, entry.1 = .text t) ∧
      (LoadsOrReports (load r s configPath? envPath?).1 ↔
        ∃ home env, homeIn s = .ok home ∧
          loadEnvironment r s (locate envPath? home ".env") = .ok env ∧
          (s.files (locate configPath? home "config.yaml")).IsNamed r) := by
  constructor
  · rw [loadsOrReports_ofDocument_iff, Environment.isNamed_resolve_iff]
    exact isNamed_orEmpty_iff
  · rw [loadsOrReports_load_iff, exists_readFiles_iff]

/-- A file in the home directory of the program, and no variables. -/
def onlyFile (contents : String) : Surroundings where
  environment := []
  files path :=
    if path = Path.ofText "/home/config.yaml".toList then .file contents.toList else .missing
  defaultHome := "/home".toList
  homes _ := none

theorem load_onlyFile {r : Readers} {contents : String} {v : Value}
    (hlines : unifiedLines contents.toList = contents.toList)
    (hread : r.document contents.toList = .ok v) (hsome : v.isVoid = false) :
    (load r (onlyFile contents) none none).1 =
      ofDocument [] "/home".toList (Environment.resolve [] v).1 := by
  have hdocument : readDocument r (onlyFile contents)
      (locate none (Path.ofText "/home".toList) "config.yaml") = .ok v := by
    have hfile : (onlyFile contents).files
        (locate none (Path.ofText "/home".toList) "config.yaml") = .file contents.toList := by
      rfl
    rw [readDocument, hfile]
    dsimp only
    rw [hlines, hread]
    simp [bind, Except.bind, hsome, pure, Except.pure]
  have hhome : homeIn (onlyFile contents) = .ok (Path.ofText "/home".toList) := by
    rfl
  have hfiles : readFiles r (onlyFile contents) none none = .ok ([], v) := by
    rw [readFiles, hhome]
    change (do
      let document ← readDocument r (onlyFile contents) _
      return (([] : Environment), document)) = _
    rw [hdocument]
    rfl
  rw [load, hfiles]
  rfl

section Documents
open Yaml

theorem readYaml_list :
    Readers.own.document "- utc\n".toList = .ok (.list [.text "utc".toList]) := by
  have hlexemes : lexemes ⟨0, 0, 0, "- utc\n".toList⟩ =
      some [⟨0, 0, .dash⟩, ⟨0, 2, .plain "utc".toList⟩] := by
    cbv
  have hread : read? "- utc\n".toList = some (.list [.text "utc".toList]) := by
    refine read?_of_readNode (by decide) hlexemes ?_
    simp [readNode, readItems, readFlow, startsWithKey, scalarOf?]
    rfl
  simp only [Readers.own, Readers.readYaml, hread]
  rfl

/-- The key is a truth value and not the text of it. -/
theorem readYaml_flagKey : Readers.own.document "on: utc\n".toList =
    .ok (.map [(.bool true, .text "utc".toList)]) := by
  have hlexemes : lexemes ⟨0, 0, 0, "on: utc\n".toList⟩ =
      some [⟨0, 0, .plain "on".toList⟩, ⟨0, 2, .colon⟩, ⟨0, 4, .plain "utc".toList⟩] := by
    cbv
  have hread : read? "on: utc\n".toList = some (.map [(.bool true, .text "utc".toList)]) := by
    refine read?_of_readNode (by decide) hlexemes ?_
    simp [readNode, readEntries, readEntryValue, readFlow, startsWithKey, scalarOf?]
    rfl
  simp only [Readers.own, Readers.readYaml, hread]
  rfl

end Documents

/-- A list is no map of settings, and a truth value is no name of one. Whatever readers find them in
a document, loading it is not reported; those of this program do. -/
theorem load_not_always_reported :
    Readers.own.document "- utc\n".toList = .ok (.list [.text "utc".toList]) ∧
      Readers.own.document "on: utc\n".toList = .ok (.map [(.bool true, .text "utc".toList)]) ∧
      ∀ r : Readers,
        (r.document "- utc\n".toList = .ok (.list [.text "utc".toList]) →
          (load r (onlyFile "- utc\n") none none).1 = .error (.settings (.notAMap "list")) ∧
            ¬ ∀ (s : Surroundings) (home : Path) (env : Environment) (contents : Text) (v : Value),
              homeIn s = .ok home → loadEnvironment r s (locate none home ".env") = .ok env →
                s.files (locate none home "config.yaml") = .file contents →
                r.document (unifiedLines contents) = .ok v →
                LoadsOrReports (load r s none none).1) ∧
        (r.document "on: utc\n".toList = .ok (.map [(.bool true, .text "utc".toList)]) →
          (load r (onlyFile "on: utc\n") none none).1 = .error (.settings .keyNotText)) := by
  refine ⟨readYaml_list, readYaml_flagKey, fun r => ⟨fun hread => ?_, fun hread => ?_⟩⟩
  · have hlist : (load r (onlyFile "- utc\n") none none).1 =
        .error (.settings (.notAMap "list")) := by
      rw [load_onlyFile (by decide) hread rfl]
      rfl
    refine ⟨hlist, fun h => ?_⟩
    have hreported := h (onlyFile "- utc\n") (Path.ofText "/home".toList) [] _ _ rfl rfl rfl hread
    rw [hlist] at hreported
    exact not_loadsOrReports _ hreported
  · rw [load_onlyFile (by decide) hread rfl]
    rfl

end Settings
end Crontab
