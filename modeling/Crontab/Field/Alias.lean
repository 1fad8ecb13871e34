import Crontab.Fault
import Crontab.Field.Column

/-! # Names of months and days

A run of letters is cut from the left into names of three letters, the last
possibly shorter. Each name is replaced by its number; case does not matter.
-/
namespace Crontab

namespace Alias

/-- The ASCII letters and the four others that fold to one of them in some case rule. -/
def isLetter (c : Char) : Bool :=
  ('a' ≤ c && c ≤ 'z') || ('A' ≤ c && c ≤ 'Z') ||
    c == '\u0130' || c == '\u0131' || c == '\u017F' || c == '\u212A'

/-- The lower case of a letter. The dotted capital keeps its dot as a combining mark. -/
def lower (c : Char) : Text :=
  if 'A' ≤ c && c ≤ 'Z' then [Char.ofNat (c.toNat + 32)]
  else if c = '\u0130' then ['i', '\u0307']
  else if c = '\u212A' then ['k']
  else [c]

/-- A name, or a character between names. -/
inductive Piece
  | name (letters : Text)
  | other (c : Char)
  deriving DecidableEq, Repr

/-- The letters still waiting at the end of a run. -/
def lastName : Text → List Piece
  | [] => []
  | letters => [.name letters]

/-- Cuts a text into names and other characters, given the letters read of an unfinished name. -/
def cutFrom (pending : Text) : Text → List Piece
  | [] => lastName pending
  | c :: rest =>
    if isLetter c then
      if pending.length < 2 then cutFrom (pending ++ [c]) rest
      else .name (pending ++ [c]) :: cutFrom [] rest
    else lastName pending ++ .other c :: cutFrom [] rest

def cut (t : Text) : List Piece :=
  cutFrom [] t

end Alias

namespace Column

def replaceNames (label : String) (table : AliasTable) : List Alias.Piece → Except Fault Text
  | [] => return []
  | .other c :: rest => return c :: (← replaceNames label table rest)
  | .name letters :: rest =>
    let name := letters.flatMap Alias.lower
    match table.lookup name with
    | some n => return Text.ofNat n ++ (← replaceNames label table rest)
    | none => throw (.parse (.unknownAlias label name))

def substitute (column : Column) (raw : Text) : Except Fault Text :=
  match column.aliases? with
  | none => return raw
  | some table => replaceNames column.label table (Alias.cut raw)

end Column
end Crontab
