import Crontab.CommandLine.Grammar

/-! # The program and its commands

The options of the program and of its three commands, with their usage and help texts.
-/
namespace Crontab.CommandLine

def commandNames : List String :=
  ["test", "compile", "check"]

def programUsage : String :=
  "usage: cronmatch [-h] [--config CONFIG] [--env ENV] [--log-level LOG_LEVEL]\n" ++
  "                 \x7btest,compile,check\x7d ...\n"

def programGrammar : Grammar where
  program := "cronmatch"
  usage := programUsage
  help := programUsage ++
    "\n" ++
    "cronmatch -- test instants against cron expressions\n" ++
    "\n" ++
    "positional arguments:\n" ++
    "  \x7btest,compile,check\x7d\n" ++
    "    test                Check whether an instant matches an expression\n" ++
    "    compile             Show the compiled field values\n" ++
    "    check               List configured schedules due at an instant\n" ++
    "\n" ++
    "options:\n" ++
    "  -h, --help            show this help message and exit\n" ++
    "  --config CONFIG, -c CONFIG\n" ++
    "                        Path to config.yaml\n" ++
    "  --env ENV             Path to .env file\n" ++
    "  --log-level LOG_LEVEL\n" ++
    "                        Override logging level\n"
  spellings :=
    [("-h", .help), ("--help", .help), ("--config", .config), ("-c", .config), ("--env", .env),
     ("--log-level", .logLevel)]
  positional := .command

def testUsage : String :=
  "usage: cronmatch test [-h] [--at AT] [--tz TZ] [--utc] expression\n"

def testGrammar : Grammar where
  program := "cronmatch test"
  usage := testUsage
  help := testUsage ++
    "\n" ++
    "positional arguments:\n" ++
    "  expression  Cron expression or @name\n" ++
    "\n" ++
    "options:\n" ++
    "  -h, --help  show this help message and exit\n" ++
    "  --at AT     ISO-8601 instant (default: now)\n" ++
    "  --tz TZ     Time zone name, e.g. Europe/Paris\n" ++
    "  --utc       Evaluate in UTC\n"
  spellings := [("-h", .help), ("--help", .help), ("--at", .at), ("--tz", .tz), ("--utc", .utc)]
  positional := .expression

def compileUsage : String :=
  "usage: cronmatch compile [-h] expression\n"

def compileGrammar : Grammar where
  program := "cronmatch compile"
  usage := compileUsage
  help := compileUsage ++
    "\n" ++
    "positional arguments:\n" ++
    "  expression  Cron expression or @name\n" ++
    "\n" ++
    "options:\n" ++
    "  -h, --help  show this help message and exit\n"
  spellings := [("-h", .help), ("--help", .help)]
  positional := .expression

def checkUsage : String :=
  "usage: cronmatch check [-h] [--at AT]\n"

def checkGrammar : Grammar where
  program := "cronmatch check"
  usage := checkUsage
  help := checkUsage ++
    "\n" ++
    "options:\n" ++
    "  -h, --help  show this help message and exit\n" ++
    "  --at AT     ISO-8601 instant (default: now)\n"
  spellings := [("-h", .help), ("--help", .help), ("--at", .at)]
  positional := .nothing

/-- What a command is to do. -/
inductive Command
  | test (expression : Text) (at? zone? : Option Text) (utc : Bool)
  | compile (expression : Text)
  | check (at? : Option Text)
  deriving DecidableEq, Repr

/-- All that the arguments say. Without a command there is only help to give. -/
structure Arguments where
  config? : Option Text
  env? : Option Text
  logLevel? : Option Text
  command? : Option Command
  deriving DecidableEq, Repr

def readCommand (name : Text) (args : List Text) : Except Stop (Command × List Text) :=
  if name = "test".toList then do
    let found ← testGrammar.read args
    return (.test (found.positional.headD []) (found.text? .at) (found.text? .tz)
      (found.text? .utc).isSome, found.leftOver)
  else if name = "compile".toList then do
    let found ← compileGrammar.read args
    return (.compile (found.positional.headD []), found.leftOver)
  else if name = "check".toList then do
    let found ← checkGrammar.read args
    return (.check (found.text? .at), found.leftOver)
  else
    let choices := commandNames.map fun choice => Text.quoted choice.toList
    throw (.usage programGrammar (s!"argument command: invalid choice: {Text.quoted name} " ++
      "(choose from " ++ String.intercalate ", " choices ++ ")"))

/-- Reads the arguments of the program. Arguments that fit nowhere are an error. -/
def readArguments (args : List Text) : Except Stop Arguments := do
  let found ← programGrammar.read args
  let (command?, leftOver) ←
    match found.positional with
    | [] => pure (none, [])
    | name :: rest => do
      let (command, leftOver) ← readCommand name rest
      pure (some command, leftOver)
  let leftOver := found.leftOver ++ leftOver
  unless leftOver.isEmpty do
    throw (.usage programGrammar
      ("unrecognized arguments: " ++ String.intercalate " " (leftOver.map String.ofList)))
  return ⟨found.text? .config, found.text? .env, found.text? .logLevel, command?⟩

end Crontab.CommandLine
