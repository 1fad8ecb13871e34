import Crontab.Yaml.Scalar
import Crontab.Yaml.Token

/-! # YAML documents

Block maps and lists by their columns, flow maps and lists by their brackets, and
scalars. Of several entries under one key the last counts. Reading a part gives
its value and the lexemes after it; what gets no further is refused.
-/
namespace Crontab.Yaml

def sameKey : Value → Value → Bool
  | .null, .null => true
  | .bool a, .bool b => a == b
  | .int a, .int b => a == b
  | .float a, .float b => a == b
  | .text a, .text b => a == b
  | _, _ => false

/-- Stores an entry under its key, in the place of an older one if there is one. -/
def put (key value : Value) : List (Value × Value) → List (Value × Value)
  | [] => [(key, value)]
  | (k, v) :: rest => if sameKey k key then (k, value) :: rest else (k, v) :: put key value rest

def mapOf (entries : List (Value × Value)) : Value :=
  .map (entries.foldl (fun stored (key, value) => put key value stored) [])

def scalarOf? : Token → Option Value
  | .plain t => some (scalar t)
  | .quoted t => some (.text t)
  | _ => none

/-- Whether a scalar and a colon on its line stand first. -/
def startsWithKey : List Lexeme → Bool
  | key :: colon :: _ =>
    (scalarOf? key.token).isSome && colon.token = .colon && colon.line = key.line
  | _ => false

mutual

/-- A value inside brackets, or a list or map in brackets, or a scalar. -/
def readFlow (ts : List Lexeme) : Option (Value × List Lexeme) :=
  match ts with
  | [] => none
  | first :: rest =>
    match first.token with
    | .openList => (readFlowItems rest).map fun (items, after) => (.list items, after)
    | .openMap => (readFlowEntries rest).map fun (entries, after) => (mapOf entries, after)
    | token => (scalarOf? token).map fun v => (v, rest)
termination_by (ts.length, 0)

def readFlowItems (ts : List Lexeme) : Option (List Value × List Lexeme) :=
  match ts with
  | [] => none
  | first :: rest =>
    if first.token = .closeList then some ([], rest)
    else
      match readFlow (first :: rest) with
      | some (item, ⟨_, _, .closeList⟩ :: after) => some ([item], after)
      | some (item, ⟨_, _, .comma⟩ :: after) =>
        if after.length < rest.length + 1 then
          (readFlowItems after).map fun (items, after) => (item :: items, after)
        else none
      | _ => none
termination_by (ts.length, 1)

/-- The entries up to the closing brace. A key without a colon has no value. -/
def readFlowEntries (ts : List Lexeme) : Option (List (Value × Value) × List Lexeme) :=
  match ts with
  | [] => none
  | first :: rest =>
    if first.token = .closeMap then some ([], rest)
    else
      match scalarOf? first.token with
      | none => none
      | some key =>
        let value? : Option (Value × List Lexeme) :=
          match rest with
          | ⟨_, _, .colon⟩ :: ⟨line, column, .comma⟩ :: after =>
            some (Value.null, ⟨line, column, .comma⟩ :: after)
          | ⟨_, _, .colon⟩ :: ⟨line, column, .closeMap⟩ :: after =>
            some (Value.null, ⟨line, column, .closeMap⟩ :: after)
          | ⟨_, _, .colon⟩ :: after => readFlow after
          | after => some (Value.null, after)
        match value? with
        | some (value, ⟨_, _, .closeMap⟩ :: after) => some ([(key, value)], after)
        | some (value, ⟨_, _, .comma⟩ :: after) =>
          if after.length < rest.length + 1 then
            (readFlowEntries after).map fun (entries, after) => ((key, value) :: entries, after)
          else none
        | _ => none
termination_by (ts.length, 1)

end

mutual

/-- The value that begins at `least` or further to the right; nothing if there is none. -/
def readNode (least : Nat) (ts : List Lexeme) : Option (Value × List Lexeme) :=
  match ts with
  | [] => some (.null, [])
  | first :: rest =>
    if first.column < least then some (.null, first :: rest)
    else if first.token = .dash then
      (readItems first.column (first :: rest)).map fun (items, after) => (.list items, after)
    else if startsWithKey (first :: rest) then
      (readEntries first.column (first :: rest)).map fun (entries, after) => (mapOf entries, after)
    else readFlow (first :: rest)
termination_by (ts.length, 1)

def readItems (column : Nat) (ts : List Lexeme) : Option (List Value × List Lexeme) :=
  match ts with
  | [] => some ([], [])
  | first :: rest =>
    if first.token = .dash && first.column = column then
      match readNode (column + 1) rest with
      | some (item, after) =>
        if after.length < rest.length + 1 then
          (readItems column after).map fun (items, after) => (item :: items, after)
        else none
      | none => none
    else some ([], first :: rest)
termination_by (ts.length, 0)

def readEntries (column : Nat) (ts : List Lexeme) : Option (List (Value × Value) × List Lexeme) :=
  match ts with
  | key :: colon :: rest =>
    if key.column = column && startsWithKey (key :: colon :: rest) then
      match scalarOf? key.token, readEntryValue column colon.line rest with
      | some k, some (v, after) =>
        if after.length < rest.length + 2 then
          (readEntries column after).map fun (entries, after) => ((k, v) :: entries, after)
        else none
      | _, _ => none
    else some ([], key :: colon :: rest)
  | ts => some ([], ts)
termination_by (ts.length, 0)

/-- The value after a colon: on its line a scalar or brackets, below it a block. The dashes of a
list may stand under the key. -/
def readEntryValue (column line : Nat) (ts : List Lexeme) : Option (Value × List Lexeme) :=
  match ts with
  | [] => some (.null, [])
  | first :: rest =>
    if first.line = line then
      if startsWithKey (first :: rest) then none else readFlow (first :: rest)
    else if first.column = column && first.token = .dash then
      (readItems column (first :: rest)).map fun (items, after) => (.list items, after)
    else readNode (column + 1) (first :: rest)
termination_by (ts.length, 2)

end

/-- Controls other than tabs and line ends are not allowed anywhere. -/
def isAllowed (c : Char) : Bool :=
  c = '\t' || c = '\n' || c = '\r' || (0x20 ≤ c.toNat && c.toNat < 0x7F) || c.toNat = 0x85 ||
    (0xA0 ≤ c.toNat && c.toNat ≠ 0xFFFE && c.toNat ≠ 0xFFFF)

def withoutMark (t : Text) : Text :=
  match Text.after? "---".toList t with
  | some rest => if isBreak rest.head? then rest else t
  | none => t

def read? (t : Text) : Option Value :=
  if t.all isAllowed then do
    let ts ← lexemes ⟨0, 0, 0, withoutMark t⟩
    match ← readNode 0 ts with
    | (v, []) => some v
    | _ => none
  else none

theorem read?_of_readNode {t : Text} {ts : List Lexeme} {v : Value}
    (hallowed : t.all isAllowed = true) (hlexemes : lexemes ⟨0, 0, 0, withoutMark t⟩ = some ts)
    (hnode : readNode 0 ts = some (v, [])) : read? t = some v := by
  rw [read?, if_pos hallowed, hlexemes]
  simp only [bind, Option.bind, hnode]

end Crontab.Yaml
