import Std.Time.DateTime.Timestamp
import Crontab.Calendar.Zone
import Crontab.CommandLine.Run
import Crontab.Settings.Readers

/-! # The program

Reads the environment and the files that a run may ask for, runs, and prints.
-/
namespace Crontab

/-- What stands under a path. What cannot be read as a file counts as missing or as a directory. -/
def readEntry (path : Path) : IO FileEntry := do
  try
    let contents ← IO.FS.readFile (String.ofList path.text)
    return .file contents.toList
  catch
    | .noFileOrDirectory .. => return .missing
    | _ => return .directory

/-- The variables that matter, where they are set. Others are looked up by name. -/
def readVariables (names : List Text) : IO Environment := do
  let found ← names.filterMapM fun name => do
    let text? ← IO.getEnv (String.ofList name)
    return text?.map fun text => (name, text.toList)
  return found

def readFiles (paths : List Path) : IO (List (Path × FileEntry)) :=
  paths.mapM fun path => return (path, ← readEntry path)

/-- The variables that a binding sets or refers to. -/
def variablesOfBinding (b : Dotenv.Binding) : List Text :=
  b.name :: (b.text?.map Dotenv.references).getD []

/-- The variables that a file refers to or sets. -/
def variablesOf : FileEntry → List Text
  | .file contents =>
    Environment.references contents ++
      (Dotenv.read (unifiedLines contents)).flatMap variablesOfBinding
  | _ => []

/-- The paths that settings are loaded from. -/
def settingsPaths (s : Surroundings) (arguments : CommandLine.Arguments) : List Path :=
  match Settings.homeIn s with
  | .error _ => []
  | .ok home =>
    [Settings.locate arguments.env? home ".env",
     Settings.locate arguments.config? home "config.yaml"]

def presentInstant : IO Instant := do
  let now ← Std.Time.Timestamp.now
  let count := now.toNanosecondsSinceUnixEpoch.val / 1000
  return .moment (Moment.ofLocalMicroseconds count (some 0)) none

/-- The home directories of users by name. -/
def readHomes : IO (Text → Option Text) := do
  let users ← try IO.FS.readFile "/etc/passwd" catch _ => pure ""
  let entries := (users.splitOn "\n").filterMap fun line =>
    match line.splitOn ":" with
    | name :: _ :: _ :: _ :: _ :: home :: _ => some (name.toList, home.toList)
    | _ => none
  return fun user => entries.lookup user

/-- What the program finds around it, as far as its arguments may ask for it. -/
def readSurroundings (args : List Text) : IO Surroundings := do
  let env ← readVariables ["HOME".toList, homeVariable]
  let homes ← readHomes
  let home := (Path.homeOf? homes env []).getD ['/']
  let defaultHome := ((Path.ofText home).child ".cronmatch").text
  let s : Surroundings := ⟨env, fun _ => .missing, defaultHome, homes⟩
  let paths := match CommandLine.readArguments args with
    | .ok arguments => settingsPaths s arguments
    | .error _ => []
  let entries ← readFiles paths
  let names := entries.flatMap fun (_, entry) => variablesOf entry
  let more ← readVariables names
  return { s with
    environment := more.foldl (fun env (name, text) => env.add name text) env
    files := fun path => (entries.lookup path).getD .missing }

end Crontab

open Crontab in
def main (args : List String) : IO UInt32 := do
  let args := args.map String.toList
  let surroundings ← readSurroundings args
  match CommandLine.run civilProvider .own surroundings (← presentInstant) args with
  | .ok output =>
    IO.print output.out
    IO.eprint output.err
    return UInt32.ofNat output.code
  | .error fault =>
    IO.eprintln fault.message
    return 1
