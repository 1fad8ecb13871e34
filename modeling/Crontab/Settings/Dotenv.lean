import Crontab.Fault
import Crontab.Settings.Environment
import Crontab.Text.Blank

/-! # Dotenv files

Lines `NAME=text` set variables. A text may stand in quotes and then run over
several lines; `${NAME}` in it stands for a variable, and `${NAME:-text}` gives
what to use without one. A line that cannot be read is passed over.
-/
namespace Crontab.Dotenv

/-- A name and its text. A name without an equals sign has none. -/
structure Binding where
  name : Text
  text? : Option Text
  deriving DecidableEq, Repr

def isLineEnd (c : Char) : Bool :=
  c = '\n' || c = '\r'

/-- Blanks that do not end a line. -/
def isSpace (c : Char) : Bool :=
  Text.isBlank c && !isLineEnd c

def afterLineEnd : Text → Text
  | '\r' :: '\n' :: rest => rest
  | '\n' :: rest => rest
  | '\r' :: rest => rest
  | rest => rest

def nextLine (t : Text) : Text :=
  afterLineEnd (t.dropWhile fun c => !isLineEnd c)

/-- What follows the word `export` and blanks, where they stand. -/
def withoutExport (t : Text) : Text :=
  match Text.after? "export".toList t with
  | some rest => if (rest.head?.map isSpace).getD false then rest.dropWhile isSpace else t
  | none => t

/-- What stands before the closing quote, and what follows it. A quote after a backslash closes
only if no other one does. -/
def closing? (quote : Char) : Text → Option (Text × Text)
  | [] => none
  | [c] => if c = quote then some ([], []) else none
  | c :: d :: rest =>
    if c = quote then some ([], d :: rest)
    else if c = '\\' && d = quote then
      match closing? quote rest with
      | some (inner, after) => some (c :: d :: inner, after)
      | none => some ([c], rest)
    else (closing? quote (d :: rest)).map fun (inner, after) => (c :: inner, after)

/-- The characters that a backslash may precede inside quotes, with their meanings. -/
def escapes (quote : Char) : List (Char × Char) :=
  if quote = '\x27' then [('\\', '\\'), ('\x27', '\x27')]
  else
    [('\\', '\\'), ('\x27', '\x27'), ('\x22', '\x22'), ('a', '\x07'), ('b', '\x08'), ('f', '\x0C'),
     ('n', '\n'), ('r', '\r'), ('t', '\t'), ('v', '\x0B')]

/-- The text with its escapes replaced. Other backslashes stay. -/
def unescaped (quote : Char) : Text → Text
  | '\\' :: c :: rest =>
    match (escapes quote).lookup c with
    | some d => d :: unescaped quote rest
    | none => '\\' :: unescaped quote (c :: rest)
  | c :: rest => c :: unescaped quote rest
  | [] => []

def withoutComment : Text → Text
  | [] => []
  | c :: rest =>
    if Text.isBlank c && (rest.dropWhile Text.isBlank).head? = some '#' then []
    else c :: withoutComment rest

/-- A name at the start of a line, and what follows it. A comment has no name. -/
def readName? (t : Text) : Option (Option Text × Text) :=
  match t with
  | '#' :: _ => some (none, t)
  | '\x27' :: inner =>
    let name := inner.takeWhile (· ≠ '\x27')
    match inner.dropWhile (· ≠ '\x27') with
    | _ :: rest => if name.isEmpty then none else some (some name, rest)
    | [] => none
  | t =>
    let isPart (c : Char) := c ≠ '=' && c ≠ '#' && !Text.isBlank c
    let name := t.takeWhile isPart
    if name.isEmpty then none else some (some name, t.dropWhile isPart)

def readText? (t : Text) : Option (Text × Text) :=
  match t with
  | '\x27' :: inner => (closing? '\x27' inner).map fun (s, rest) => (unescaped '\x27' s, rest)
  | '\x22' :: inner => (closing? '\x22' inner).map fun (s, rest) => (unescaped '\x22' s, rest)
  | t =>
    let line := t.takeWhile fun c => !isLineEnd c
    some (Text.trimmedEnd (withoutComment line), t.dropWhile fun c => !isLineEnd c)

def afterComment (t : Text) : Text :=
  let rest := t.dropWhile isSpace
  if rest.head? = some '#' then rest.dropWhile fun c => !isLineEnd c else t

/-- Reads the end of a line: a comment, blanks and a line end. Otherwise gives the place of the
fault. -/
def readLineEnd (t : Text) : Except Text Text :=
  let t := afterComment t
  let rest := t.dropWhile isSpace
  if (rest.head?.map isLineEnd).getD true then .ok (afterLineEnd rest) else .error t

/-- Reads one binding or comment. A fault gives the place from which the line is passed over. -/
def readBinding (t : Text) : Except Text (Option Binding × Text) := do
  let t := withoutExport t
  let some (name?, rest) := readName? t | throw t
  let rest := rest.dropWhile isSpace
  let (text?, rest) ←
    match rest with
    | '=' :: after =>
      let after := after.dropWhile isSpace
      match readText? after with
      | some (text, rest) => pure (some text, rest)
      | none => throw after
    | rest => pure (none, rest)
  let rest ← readLineEnd rest
  return (name?.map (⟨·, text?⟩), rest)

/-- Reads bindings up to the end. A step that gets no further is the last one. -/
def read (t : Text) : List Binding :=
  let start := t.dropWhile Text.isBlank
  if start.isEmpty then []
  else
    let (binding?, rest) :=
      match readBinding start with
      | .ok (binding?, rest) => (binding?, rest)
      | .error place => (none, nextLine place)
    if rest.length < t.length then binding?.toList ++ read rest else binding?.toList
termination_by t.length

/-- The name and the default of the reference at the start of a text, and what follows it. -/
def reference? : Text → Option (Text × Text × Text)
  | '$' :: '\x7b' :: t =>
    let name := t.takeWhile fun c => c ≠ '\x7d' && c ≠ ':'
    match t.dropWhile fun c => c ≠ '\x7d' && c ≠ ':' with
    | '\x7d' :: rest => some (name, [], rest)
    | ':' :: '-' :: more =>
      match more.dropWhile (· ≠ '\x7d') with
      | '\x7d' :: rest => some (name, more.takeWhile (· ≠ '\x7d'), rest)
      | _ => none
    | _ => none
  | _ => none

theorem length_lt_of_reference? {t name default rest : Text}
    (h : reference? t = some (name, default, rest)) : rest.length < t.length := by
  unfold reference? at h
  split at h
  · rename_i s
    simp only at h
    have hname := (List.dropWhile_suffix (l := s) fun c => c ≠ '\x7d' && c ≠ ':').length_le
    split at h
    · rename_i after hdrop
      simp only [Option.some.injEq, Prod.mk.injEq] at h
      rw [hdrop] at hname
      simp only [List.length_cons] at hname ⊢
      rw [← h.2.2]
      omega
    · rename_i more hdrop
      have hdefault := (List.dropWhile_suffix (l := more) (· ≠ '\x7d')).length_le
      rw [hdrop] at hname
      split at h
      · rename_i after hend
        simp only [Option.some.injEq, Prod.mk.injEq] at h
        rw [hend] at hdefault
        simp only [List.length_cons] at hname hdefault ⊢
        rw [← h.2.2]
        omega
      · exact absurd h (by simp)
    · exact absurd h (by simp)
  · exact absurd h (by simp)

inductive Piece
  | literal (c : Char)
  | reference (name default : Text)
  deriving DecidableEq, Repr

def pieces (t : Text) : List Piece :=
  match t with
  | [] => []
  | c :: rest =>
    match _h : reference? (c :: rest) with
    | some (name, default, after) => .reference name default :: pieces after
    | none => .literal c :: pieces rest
termination_by t.length
decreasing_by
  · exact length_lt_of_reference? ‹_›
  · exact Nat.lt_succ_self rest.length

def Piece.expanded (lookup : Text → Option Text) : Piece → Text
  | .literal c => [c]
  | .reference name default => (lookup name).getD default

def expand (lookup : Text → Option Text) (t : Text) : Text :=
  (pieces t).flatMap (Piece.expanded lookup)

def references (t : Text) : List Text :=
  (pieces t).filterMap fun piece =>
    match piece with
    | .literal _ => none
    | .reference name _ => some name

/-- Looks a variable up in the environment, then among the bindings read before. A binding without
a text hides the default. -/
def lookupIn (env : Environment) (before : List (Text × Option Text)) (name : Text) : Option Text :=
  match env.lookup name with
  | some text => some text
  | none => (before.lookup name).map (·.getD [])

/-- The texts of bindings, each expanded with those before it. A later binding of a name replaces an
earlier one. -/
def texts (env : Environment) (bindings : List Binding) : List (Text × Option Text) :=
  bindings.foldl
    (fun before b =>
      (b.name, b.text?.map (expand (lookupIn env before))) :: before.filter (·.1 ≠ b.name))
    []

/-- The environment with a variable. One that is set keeps its text. -/
def setVariable (env : Environment) (name text : Text) : Except SettingsError Environment :=
  if (env.lookup name).isSome then return env
  else if name.contains '\x00' || text.contains '\x00' then throw .embeddedNull
  else if name.contains '=' then throw .illegalVariable
  else return env.add name text

/-- The environment with the variables of a file. -/
def load (env : Environment) (file : Text) : Except SettingsError Environment :=
  (texts env (read file)).foldlM
    (fun loaded (name, text?) =>
      match text? with
      | some text => setVariable loaded name text
      | none => return loaded)
    env

end Crontab.Dotenv
