import Crontab.Settings.Basic

/-! # Loading settings

A dotenv file adds to the environment, a YAML document gives the entries, and
references to variables in it are replaced. A missing file means defaults. How the
two kinds of file are read is left to the readers that are given.
-/
namespace Crontab

inductive FileEntry
  | missing
  | directory
  | file (contents : Text)

structure Surroundings where
  environment : Environment
  files : Path → FileEntry
  /-- The home directory of the program unless a variable names another one. -/
  defaultHome : Text
  /-- The home directories of users; under the empty name that of the one who runs the program. -/
  homes : Text → Option Text

structure Readers where
  /-- The value of a document. -/
  document : Text → Except SettingsError Value
  /-- The environment with the variables of a dotenv file. -/
  dotenv : Environment → Text → Except SettingsError Environment

def homeVariable : Text := "CRONMATCH_HOME".toList

/-- Texts with every line end written as one character. -/
def unifiedLines : Text → Text
  | '\r' :: '\n' :: rest => '\n' :: unifiedLines rest
  | '\r' :: rest => '\n' :: unifiedLines rest
  | c :: rest => c :: unifiedLines rest
  | [] => []

namespace Settings

/-- A path that was given, or the one of a file in the home directory of the program. -/
def locate (given? : Option Text) (home : Path) (name : String) : Path :=
  match given? with
  | some t => Path.ofText t
  | none => home.child name

def loadEnvironment (r : Readers) (s : Surroundings) (path : Path) :
    Except SettingsError Environment :=
  match s.files path with
  | .file contents => r.dotenv s.environment (unifiedLines contents)
  | _ => return s.environment

/-- The value of the document under a path; an absent or empty one is an empty map. -/
def readDocument (r : Readers) (s : Surroundings) (path : Path) : Except SettingsError Value :=
  match s.files path with
  | .missing => return .map []
  | .directory => throw .unreadableFile
  | .file contents => do
    let v ← r.document (unifiedLines contents)
    return if v.isVoid then .map [] else v

/-- The document with the home directory that a variable names. -/
def withHome (home? : Option Text) (document : Value) : Except SettingsError Value :=
  match home?, document with
  | none, document => return document
  | some home, .map entries => return .map (Value.store "home_dir".toList (.text home) entries)
  | some _, document => throw (.noPlaceForHome document.kind)

def entriesOf : Value → Except SettingsError (List (Value × Value))
  | .map entries =>
    if entries.all fun (key, _) => key.text?.isSome then return entries else throw .keyNotText
  | document => throw (.notAMap document.kind)

def ofDocument (env : Environment) (defaultHome : Text) (document : Value) :
    Except Fault Settings := do
  let document ← (withHome (env.lookup homeVariable) document).mapError .settings
  let entries ← (entriesOf document).mapError .settings
  read defaultHome entries

/-- The home directory of the program. -/
def homeIn (s : Surroundings) : Except SettingsError Path :=
  (Path.ofText ((s.environment.lookup homeVariable).getD s.defaultHome)).expandUser s.homes
    s.environment

/-- The environment and the document that settings are loaded from. -/
def readFiles (r : Readers) (s : Surroundings) (configPath? envPath? : Option Text) :
    Except SettingsError (Environment × Value) := do
  let home ← homeIn s
  let env ← loadEnvironment r s (locate envPath? home ".env")
  let document ← readDocument r s (locate configPath? home "config.yaml")
  return (env, document)

/-- Loads settings. Beside them stand the names of variables that the document refers to and that
are not set. -/
def load (r : Readers) (s : Surroundings) (configPath? envPath? : Option Text) :
    Except Fault Settings × List Text :=
  match readFiles r s configPath? envPath? with
  | .error cause => (.error (.settings cause), [])
  | .ok (env, document) =>
    let (document, unset) := Environment.resolve env document
    (ofDocument env s.defaultHome document, unset)

end Settings
end Crontab
