import Crontab.Field.Alias
import Crontab.Field.Merge

/-! # Compiling a column

Names become numbers, stars become ranges, the list is cut at commas and its
atoms, in the order of their digits, are resolved and merged.
-/
namespace Crontab

/-- The characters of a column after names are replaced. -/
def isColumnCharacter (c : Char) : Bool :=
  Text.isDigit c || c == '|' || c == '/' || c == '*' || c == ',' || c == '-'

/-- A text with a range in place of every star. -/
def writeStars (range text : Text) : Text :=
  text.flatMap fun c => if c = '*' then range else [c]

/-- Puts the bounds in place of every star. They are written even if there is no star, so bounds
that cannot be written are a fault of every text. -/
def expandWildcard (bounds : Bounds) (text : Text) : Except Fault Text := do
  let span ← bounds.span
  return writeStars span text

theorem expandWildcard_eq_ok_iff {bounds : Bounds} {text expanded : Text} :
    expandWildcard bounds text = .ok expanded ↔
      bounds.span = .ok bounds.text ∧ expanded = writeStars bounds.text text := by
  rcases bounds.span_eq with hspan | hspan
  · rw [expandWildcard, hspan]
    exact ⟨fun h => by cases h; exact ⟨rfl, rfl⟩, fun h => by rw [h.2]; rfl⟩
  · rw [expandWildcard, hspan]
    exact ⟨nofun, fun h => nomatch h.1⟩

/-- The number formed by all digits of an atom, -1 if there is none. -/
def sortNumber (atom : Text) : Except Fault Int :=
  let digits := atom.filter Text.isDigit
  if digits.isEmpty then return -1
  else do
    let n ← readNumber digits
    return n

/-- The atoms in the order of their numbers; equal numbers keep their order. -/
def sortAtoms (atoms : List Text) : Except Fault (List Text) := do
  let numbers ← atoms.mapM sortNumber
  return ((numbers.zip atoms).mergeSort fun a b => a.1 ≤ b.1).map (·.2)

namespace Column

/-- The atoms of a text in the order in which they are merged. -/
def atoms (column : Column) (text : Text) : Except Fault (List Text) := do
  let expanded ← expandWildcard column.bounds text
  let pieces := Text.pieces ',' expanded
  if 1 < pieces.length then sortAtoms pieces else return pieces

def collect (column : Column) (collected : List Int) : List Text → Except Fault (List Int)
  | [] => return collected
  | atom :: rest => do
    let resolved ← column.resolve atom
    let collected ← column.merge collected resolved
    column.collect collected rest

/-- The values of a column, ascending. -/
def compile (column : Column) (raw : Text) : Except Fault (List Int) := do
  let text ← column.substitute raw
  if text.isEmpty || !text.all isColumnCharacter then
    throw (.parse (.strayCharacter column.label raw text))
  let atoms ← column.atoms text
  column.collect [] atoms

end Column
end Crontab
