import Crontab.Fault
import Crontab.Settings.Environment

/-! # Paths

A path is a root and parts. Repeated slashes and parts `.` are dropped, parts
`..` are kept. A first part that begins with a tilde names a home directory, for
which a database of users is asked.
-/
namespace Crontab

/-- A root of no, one or two slashes, and the parts after it. -/
structure Path where
  root : Text
  parts : List Text
  deriving DecidableEq, Repr

namespace Path

/-- Exactly two slashes at the start are kept; any other number of them counts as one. -/
def readRoot (t : Text) : Text :=
  match (t.takeWhile (· = '/')).length with
  | 0 => []
  | 2 => ['/', '/']
  | _ => ['/']

def ofText (t : Text) : Path where
  root := readRoot t
  parts := (Text.pieces '/' t).filter fun part => !part.isEmpty && part ≠ ['.']

def text (p : Path) : Text :=
  if p.root.isEmpty && p.parts.isEmpty then ['.'] else p.root ++ Text.joined '/' p.parts

def child (p : Path) (name : String) : Path :=
  { p with parts := p.parts ++ [name.toList] }

/-- The home directory of a user without the slashes at its end. The empty name stands for the user
who runs the program, whose home directory is also found in a variable. -/
def homeOf? (homes : Text → Option Text) (env : Environment) (user : Text) : Option Text :=
  let home? := if user.isEmpty then (env.lookup "HOME".toList).or (homes user) else homes user
  home?.map fun home =>
    let trimmed := (home.reverse.dropWhile (· = '/')).reverse
    if trimmed.isEmpty then ['/'] else trimmed

/-- The path with a tilde at its start replaced. -/
def expandUser (homes : Text → Option Text) (env : Environment) (p : Path) :
    Except SettingsError Path :=
  match p.root, p.parts with
  | [], ('~' :: user) :: rest =>
    match homeOf? homes env user with
    | none => throw .noHomeDirectory
    | some home =>
      if home.head? = some '~' then throw .noHomeDirectory
      else
        let base := ofText home
        return ⟨base.root, base.parts ++ rest⟩
  | _, _ => return p

end Path
end Crontab
