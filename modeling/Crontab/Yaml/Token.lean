import Crontab.Text.Blank
import Crontab.Text.Numeral

/-! # Tokens of YAML documents

Indicators and scalars with their places. Inside brackets, commas and brackets
end a plain scalar and every colon separates. A tab never stands between tokens.
-/
namespace Crontab.Yaml

inductive Token
  | dash
  | colon
  | comma
  | openList
  | closeList
  | openMap
  | closeMap
  | plain (t : Text)
  | quoted (t : Text)
  deriving DecidableEq, Repr

/-- A token with the line and the column at which it begins. -/
structure Lexeme where
  line : Nat
  column : Nat
  token : Token
  deriving DecidableEq, Repr

/-- What is still to be read, its place, and the number of brackets that are open there. -/
structure Cursor where
  line : Nat
  column : Nat
  depth : Nat
  text : Text

def isBreak (c? : Option Char) : Bool :=
  match c? with
  | none => true
  | some c => c = ' ' || c = '\t' || c = '\n'

def isFlowIndicator (c : Char) : Bool :=
  c = ',' || c = '[' || c = ']' || c = '\x7b' || c = '\x7d'

def isReserved (c : Char) : Bool :=
  isFlowIndicator c || c = '#' || c = '&' || c = '*' || c = '!' || c = '|' || c = '>' ||
    c = '\x27' || c = '\x22' || c = '%' || c = '@' || c = '\x60' || c = '\t'

/-- Splits a plain scalar off a line. `flow` tells whether it stands inside brackets. -/
def plain (flow : Bool) : Text → Text × Text
  | [] => ([], [])
  | c :: rest =>
    let next := rest.head?
    if c = '\n' || c = '\t' then ([], c :: rest)
    else if c = ' ' && next = some '#' then ([], c :: rest)
    else if c = ':' && (isBreak next || (flow && (next.map isFlowIndicator).getD false)) then
      ([], c :: rest)
    else if flow && (isFlowIndicator c || c = '?') then ([], c :: rest)
    else
      let (scalar, after) := plain flow rest
      (c :: scalar, after)

def isInlineBlank (c : Char) : Bool :=
  c = ' ' || c = '\t'

/-- The blanks and line ends inside a quoted scalar: a single line end counts as a space, each
further one as a line end. -/
def folded (breaks : Nat) (blanks : Text) : Text :=
  match breaks with
  | 0 => blanks
  | 1 => [' ']
  | count + 2 => List.replicate (count + 1) '\n'

/-- Splits a single-quoted scalar off the text after its opening quote, given the blanks and line
ends just read. -/
def singleQuoted (breaks : Nat) (blanks : Text) : Text → Option (Text × Text)
  | [] => none
  | '\x27' :: '\x27' :: rest =>
    (singleQuoted 0 [] rest).map fun (s, after) => (folded breaks blanks ++ '\x27' :: s, after)
  | '\x27' :: rest => some (folded breaks blanks, rest)
  | '\n' :: rest => singleQuoted (breaks + 1) [] rest
  | c :: rest =>
    if isInlineBlank c then singleQuoted breaks (blanks ++ [c]) rest
    else (singleQuoted 0 [] rest).map fun (s, after) => (folded breaks blanks ++ c :: s, after)

def escapes : List (Char × Char) :=
  [('0', '\x00'), ('a', '\x07'), ('b', '\x08'), ('t', '\t'), ('\t', '\t'), ('n', '\n'),
   ('v', '\x0B'), ('f', '\x0C'), ('r', '\r'), ('e', '\x1B'), (' ', ' '), ('\x22', '\x22'),
   ('\\', '\\'), ('/', '/'), ('N', '\u0085'), ('_', '\u00A0'), ('L', '\u2028'), ('P', '\u2029')]

def escapeWidth? (c : Char) : Option Nat :=
  if c = 'x' then some 2 else if c = 'u' then some 4 else if c = 'U' then some 8 else none

def hexValue? (c : Char) : Option Nat :=
  if '0' ≤ c && c ≤ '9' then some (c.toNat - '0'.toNat)
  else if 'a' ≤ c && c ≤ 'f' then some (c.toNat - 'a'.toNat + 10)
  else if 'A' ≤ c && c ≤ 'F' then some (c.toNat - 'A'.toNat + 10)
  else none

def hexCharacter? (width : Nat) (t : Text) : Option Char := do
  let head := t.take width
  if head.length < width then none
  let values ← head.mapM hexValue?
  let n := values.foldl (fun n v => 16 * n + v) 0
  if n.isValidChar then some (Char.ofNat n) else none

def escape? : Text → Option (Char × Text)
  | [] => none
  | c :: rest =>
    match escapes.lookup c, escapeWidth? c with
    | some d, _ => some (d, rest)
    | none, some width => (hexCharacter? width rest).map fun d => (d, rest.drop width)
    | none, none => none

/-- Splits a double-quoted scalar off the text after its opening quote, given the blanks and line
ends just read. A backslash at the end of a line joins it to the next one. -/
def doubleQuoted (breaks : Nat) (blanks : Text) (t : Text) : Option (Text × Text) :=
  match t with
  | [] => none
  | '\x22' :: rest => some (folded breaks blanks, rest)
  | '\\' :: '\n' :: rest =>
    (doubleQuoted 0 [] (rest.dropWhile isInlineBlank)).map fun (s, after) =>
      (folded breaks blanks ++ s, after)
  | '\\' :: rest =>
    match escape? rest with
    | some (c, next) =>
      if next.length < rest.length + 1 then
        (doubleQuoted 0 [] next).map fun (s, after) => (folded breaks blanks ++ c :: s, after)
      else none
    | none => none
  | '\n' :: rest => doubleQuoted (breaks + 1) [] rest
  | c :: rest =>
    if isInlineBlank c then doubleQuoted breaks (blanks ++ [c]) rest
    else (doubleQuoted 0 [] rest).map fun (s, after) => (folded breaks blanks ++ c :: s, after)
termination_by t.length
decreasing_by
  · have shorter := (List.dropWhile_suffix (l := rest) isInlineBlank).length_le
    simp only [List.length_cons]
    omega
  all_goals
    simp only [List.length_cons]
    omega

namespace Cursor

def advance (c : Cursor) (rest : Text) : Cursor :=
  let read := c.text.take (c.text.length - rest.length)
  let lines := read.count '\n'
  { c with
    line := c.line + lines
    column := if lines = 0 then c.column + read.length
      else (read.reverse.takeWhile (· ≠ '\n')).length
    text := rest }

/-- The token of one character, with the number of open brackets after it. -/
def indicator? (depth : Nat) (c : Char) (next : Option Char) : Option (Token × Nat) :=
  if c = '-' && isBreak next then some (.dash, depth)
  else if c = ':' && (isBreak next || 0 < depth) then some (.colon, depth)
  else if c = ',' then some (.comma, depth)
  else if c = '[' then some (.openList, depth + 1)
  else if c = '\x7b' then some (.openMap, depth + 1)
  else if c = ']' then some (.closeList, depth - 1)
  else if c = '\x7d' then some (.closeMap, depth - 1)
  else none

def step? (c : Cursor) : Option (Option Token × Cursor) :=
  match c.text with
  | [] => none
  | first :: rest =>
    if first = ' ' || first = '\n' then some (none, c.advance rest)
    else if first = '#' then some (none, c.advance (rest.dropWhile (· ≠ '\n')))
    else
      match indicator? c.depth first rest.head? with
      | some (token, depth) => some (some token, { c.advance rest with depth })
      | none =>
        if first = '\x27' then
          (singleQuoted 0 [] rest).map fun (s, after) => (some (.quoted s), c.advance after)
        else if first = '\x22' then
          (doubleQuoted 0 [] rest).map fun (s, after) => (some (.quoted s), c.advance after)
        else if isReserved first || (first = '?' && (isBreak rest.head? || 0 < c.depth)) then none
        else
          let (scalar, after) := plain (0 < c.depth) (first :: rest)
          some (some (.plain (Text.trimmedEnd scalar)), c.advance after)

end Cursor

/-- The tokens from a place to the end, if the text has no other characters. -/
def lexemes (c : Cursor) : Option (List Lexeme) :=
  if c.text.isEmpty then some []
  else
    match c.step? with
    | none => none
    | some (token?, next) =>
      if next.text.length < c.text.length then
        (lexemes next).map fun rest =>
          (token?.map (⟨c.line, c.column, ·⟩)).toList ++ rest
      else none
termination_by c.text.length

end Crontab.Yaml
