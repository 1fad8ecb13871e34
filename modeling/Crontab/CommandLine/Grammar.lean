import Crontab.Text.Digit
import Crontab.Text.Quoted

/-! # Command line arguments

An argument is an option, possibly shortened or with its text attached, or a
positional one. After `--` everything is positional. Options and positional
arguments may be mixed; what fits nowhere is kept as left over.
-/
namespace Crontab.CommandLine

/-- What an option sets. -/
inductive Flag
  | help
  | config
  | env
  | logLevel
  | at
  | tz
  | utc
  deriving DecidableEq, Repr

def Flag.takesText : Flag → Bool
  | .help => false
  | .utc => false
  | _ => true

/-- The positional arguments of a grammar. -/
inductive Positional
  | nothing
  | expression
  /-- A command, which takes all arguments that follow it. -/
  | command
  deriving DecidableEq, Repr

/-- The arguments of a program or of one of its commands. -/
structure Grammar where
  program : String
  usage : String
  help : String
  /-- The spellings of options, in the order in which messages list them. -/
  spellings : List (String × Flag)
  positional : Positional

/-- Why the arguments are not carried out: help is asked for, or they do not fit. -/
inductive Stop
  | help (g : Grammar)
  | usage (g : Grammar) (message : String)

/-- An option as it is written: its meaning, whether it has a single dash, and an attached text. -/
structure Written where
  flag : Flag
  short : Bool
  attached? : Option Text
  deriving DecidableEq, Repr

/-- An argument with its place in the grammar. -/
inductive Argument
  | positional (t : Text)
  | option (t : Text) (written : Written)
  | unknown (t : Text)
  /-- The first `--`. -/
  | separator
  deriving DecidableEq, Repr

namespace Argument

def text : Argument → Text
  | .positional t => t
  | .option t _ => t
  | .unknown t => t
  | .separator => ['-', '-']

end Argument

namespace Grammar

def flag? (g : Grammar) (t : Text) : Option Flag :=
  (g.spellings.find? fun s => s.1.toList == t).map (·.2)

def isShort (t : Text) : Bool :=
  t[1]? != some '-'

def title (g : Grammar) (f : Flag) : String :=
  String.intercalate "/" ((g.spellings.filter fun s => s.2 = f).map (·.1))

def complaint (g : Grammar) (f : Flag) (text : String) : Stop :=
  .usage g s!"argument {g.title f}: {text}"

/-- The spellings that an argument may shorten, or that a short option with its text attached
uses. -/
def candidates (g : Grammar) (t : Text) : List (String × Written) :=
  g.spellings.filterMap fun (spelling, flag) =>
    let name := spelling.toList
    if isShort t then
      if name == t.take 2 then some (spelling, ⟨flag, true, some (t.drop 2)⟩)
      else if t.isPrefixOf name then some (spelling, ⟨flag, isShort name, none⟩)
      else none
    else
      match Text.cut? '=' t with
      | some (start, attached) =>
        if start.isPrefixOf name then some (spelling, ⟨flag, false, some attached⟩) else none
      | none => if t.isPrefixOf name then some (spelling, ⟨flag, false, none⟩) else none

/-- A minus sign, digits, and possibly a point with digits after it. -/
def isNegativeNumber (t : Text) : Bool :=
  match t with
  | '-' :: number =>
    let rest := number.dropWhile Text.isDigit
    match rest with
    | [] => !number.isEmpty
    | '.' :: fraction => !fraction.isEmpty && fraction.all Text.isDigit
    | _ => false
  | _ => false

def spelled? (g : Grammar) (t : Text) : Option Written :=
  match g.flag? t, Text.cut? '=' t with
  | some flag, _ => some ⟨flag, isShort t, none⟩
  | none, some (name, attached) =>
    (g.flag? name).map fun flag => ⟨flag, isShort name, some attached⟩
  | none, none => none

/-- The place of an argument in the grammar. One that could be several options is an error. -/
def classify (g : Grammar) (t : Text) : Except Stop Argument :=
  if t.head? ≠ some '-' || t.length = 1 then return .positional t
  else
    match g.spelled? t, g.candidates t with
    | some written, _ => return .option t written
    | none, [(_, written)] => return .option t written
    | none, [] =>
      if isNegativeNumber t || t.contains ' ' then return .positional t else return .unknown t
    | none, several =>
      throw (.usage g (s!"ambiguous option: {String.ofList t} could match " ++
        String.intercalate ", " (several.map (·.1))))

def classifyAll (g : Grammar) : List Text → Except Stop (List Argument)
  | [] => return []
  | t :: rest =>
    if t = ['-', '-'] then return .separator :: rest.map .positional
    else return (← g.classify t) :: (← g.classifyAll rest)

/-- What a run over arguments finds. -/
structure Found where
  options : List (Flag × Text)
  /-- The positional argument, or a command with the arguments that follow it. -/
  positional : List Text
  leftOver : List Text
  deriving DecidableEq, Repr

/-- Options and a flag that still waits for its text, from short options written together. -/
def chain (g : Grammar) (flag : Flag) : Text → Except Stop (List (Flag × Text) × Option Flag)
  | [] => return if flag.takesText then ([], some flag) else ([(flag, [])], none)
  | c :: rest =>
    if flag.takesText then return ([(flag, c :: rest)], none)
    else
      match g.flag? ['-', c] with
      | none => throw (g.complaint flag s!"ignored explicit argument {Text.quoted (c :: rest)}")
      | some next => do
        let (options, waiting?) ← g.chain next rest
        return ((flag, []) :: options, waiting?)

/-- The options that an argument gives, and a flag that still waits for its text. -/
def expand (g : Grammar) (w : Written) : Except Stop (List (Flag × Text) × Option Flag) :=
  match w.attached? with
  | none => g.chain w.flag []
  | some attached =>
    if w.flag.takesText then return ([(w.flag, attached)], none)
    else if w.short && !attached.isEmpty then g.chain w.flag attached
    else throw (g.complaint w.flag s!"ignored explicit argument {Text.quoted attached}")

/-- Stops if help is among the options. -/
def unlessHelp (g : Grammar) (options : List (Flag × Text)) : Except Stop Unit :=
  if options.any fun o => o.1 = .help then throw (.help g) else return ()

/-- Goes through the arguments from the left, given the positional one that is still open. -/
def scan (g : Grammar) (awaited : Positional) : List Argument → Except Stop Found
  | [] => return ⟨[], [], []⟩
  | .unknown t :: rest => do
    let found ← g.scan awaited rest
    return { found with leftOver := t :: found.leftOver }
  | .option _ written :: rest => do
    let (options, waiting?) ← g.expand written
    match waiting?, rest with
    | none, rest =>
      g.unlessHelp options
      let found ← g.scan awaited rest
      return { found with options := options ++ found.options }
    | some flag, .positional t :: rest =>
      g.unlessHelp options
      let found ← g.scan awaited rest
      return { found with options := options ++ (flag, t) :: found.options }
    | some flag, _ => throw (g.complaint flag "expected one argument")
  | .separator :: .positional t :: rest =>
    match awaited with
    | .command => return ⟨[], ['-', '-'] :: t :: rest.map Argument.text, []⟩
    | .expression => do
      let found ← g.scan .nothing rest
      return { found with positional := [t] }
    | .nothing => do
      let found ← g.scan .nothing rest
      return { found with leftOver := ['-', '-'] :: t :: found.leftOver }
  | .separator :: rest => do
    let found ← g.scan awaited rest
    return { found with leftOver := ['-', '-'] :: found.leftOver }
  | .positional t :: rest =>
    match awaited, rest with
    | .command, rest => return ⟨[], t :: rest.map Argument.text, []⟩
    | .expression, .separator :: rest => do
      let found ← g.scan .nothing rest
      return { found with positional := [t] }
    | .expression, rest => do
      let found ← g.scan .nothing rest
      return { found with positional := [t] }
    | .nothing, rest => do
      let found ← g.scan .nothing rest
      return { found with leftOver := t :: found.leftOver }

/-- Reads arguments. An awaited expression must be found. -/
def read (g : Grammar) (args : List Text) : Except Stop Found := do
  let found ← g.scan g.positional (← g.classifyAll args)
  if g.positional = .expression && found.positional.isEmpty then
    throw (.usage g "the following arguments are required: expression")
  return found

end Grammar

def Grammar.Found.text? (found : Grammar.Found) (flag : Flag) : Option Text :=
  (found.options.reverse.find? fun o => o.1 = flag).map (·.2)

end Crontab.CommandLine
