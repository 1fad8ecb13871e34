import Crontab.Book
import Crontab.CommandLine.Help
import Crontab.CommandLine.LogLevel
import Crontab.Settings.Load

/-! # Running the program

What each command prints, and the code with which it ends: 0 for a match, 1 for
none, 2 for an error. A fault of an expression, an instant or a zone is printed;
other faults end the run.
-/
namespace Crontab.CommandLine

/-- What a run prints, and its exit code. -/
structure Output where
  code : Nat
  out : String
  err : String
  deriving DecidableEq, Repr

/-- Prints faults of expressions, instants and zones. -/
def reported : Except Fault Output → Except Fault Output
  | .error fault =>
    if fault.isCronFault then return ⟨2, "", s!"error: {fault.message}\n"⟩ else throw fault
  | .ok output => return output

/-- The text of an option, unless it is empty. -/
def given? (t? : Option Text) : Option Text :=
  t?.filter fun t => !t.isEmpty

/-- The instant of an option, or the present one. -/
def instantOf (at? : Option Text) (now : Instant) : Instant :=
  match given? at? with
  | some t => .value (.text t)
  | none => now

/-- Tests an expression. A zone given with the command replaces the configured one. -/
def runTest (provider : Provider) (settings : Settings) (now : Instant) (expression : Text)
    (at? zone? : Option Text) (utc : Bool) : Except Fault Output := do
  let zone? := (given? zone?).or settings.timezone?
  let trigger ← Trigger.parse (.text expression) zone? (utc || settings.utc) provider
  if ← trigger.test (instantOf at? now) then return ⟨0, "match\n", ""⟩
  else return ⟨1, "no match\n", ""⟩

def fieldLines (name : String) (values : List Int) : String :=
  let items := values.map fun v => "\n    " ++ String.ofList (Text.ofInt v)
  let body := if values.isEmpty then "[]" else "[" ++ String.intercalate "," items ++ "\n  ]"
  "\n  \x22" ++ name ++ "\x22: " ++ body

def scheduleLines (s : Schedule) : String :=
  let fields := Field.all.map fun f => fieldLines f.name (s.values f)
  "\x7b" ++ String.intercalate "," fields ++ "\n\x7d\n"

def runCompile (expression : Text) : Except Fault Output := do
  let schedule ← Schedule.compile expression
  return ⟨0, scheduleLines schedule, ""⟩

def runCheck (provider : Provider) (settings : Settings) (now : Instant) (at? : Option Text) :
    Except Fault Output := do
  if settings.schedules.isEmpty then return ⟨1, "No schedules configured.\n", ""⟩
  let expressions := settings.schedules.map fun (name, expression) => (name, Value.text expression)
  let book ← Book.ofExpressions expressions settings.effectiveZone? provider
  let due ← book.due (instantOf at? now)
  let lines := due.map fun name => String.ofList name ++ "\n"
  return ⟨if due.isEmpty then 1 else 0, String.join lines, ""⟩

def runCommand (provider : Provider) (settings : Settings) (now : Instant) (command : Command) :
    Except Fault Output :=
  reported <|
    match command with
    | .test expression at? zone? utc => runTest provider settings now expression at? zone? utc
    | .compile expression => runCompile expression
    | .check at? => runCheck provider settings now at?

/-- What is printed where the arguments are not carried out. -/
def Stop.output : Stop → Output
  | .help g => ⟨0, g.help, ""⟩
  | .usage g message => ⟨2, "", g.usage ++ s!"{g.program}: error: {message}\n"⟩

/-- Runs the program. Settings are loaded only for a command. -/
def run (provider : Provider) (r : Readers) (s : Surroundings) (now : Instant)
    (args : List Text) : Except Fault Output := do
  match readArguments args with
  | .error stop => return stop.output
  | .ok arguments =>
    match arguments.command? with
    | none => return ⟨0, programGrammar.help, ""⟩
    | some command =>
      let settings ← (Settings.load r s arguments.config? arguments.env?).1
      let _ ← severity ((given? arguments.logLevel?).getD settings.level)
      runCommand provider settings now command

end Crontab.CommandLine
