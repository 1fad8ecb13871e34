import Crontab.Field.Number
import Crontab.Field.Stride

/-! # Atoms

An item of a list: a number, a range, or either with a step. A number with a
step runs up to the greatest value of the column.
-/
namespace Crontab

inductive Resolved
  | single (value : Int)
  | run (values : List Int)
  deriving DecidableEq, Repr

namespace Column

def scalar (column : Column) (text : Text) : Except Fault Int :=
  let (negative, digits) :=
    match text with
    | '-' :: digits => (true, digits)
    | digits => (false, digits)
  if Text.isNumeral digits then do
    let n ← readNumber digits
    return if negative then -(n : Int) else n
  else throw (.parse (.notANumber column.label text))

def step (column : Column) (text : Text) : Except Fault Nat :=
  if Text.isNumeral text then do
    let n ← readNumber text
    if n = 0 then throw (.parse (.badStep column.label text)) else return n
  else throw (.parse (.badStep column.label text))

/-- The values of a range from `low` to `high`, written as `text`. -/
def resolveEnds (column : Column) (text low high stepText : Text) : Except Fault (List Int) := do
  if !(Text.isNumeral low && Text.isNumeral high) then
    throw (.parse (.badRange column.label text))
  let start ← readNumber low
  let stop ← readNumber high
  if (start : Int) < column.bounds.min || column.bounds.max < stop then
    throw (.parse (.rangeOutside column.label text start stop column.bounds))
  if stop ≤ start then
    throw (.parse (.badRange column.label text))
  let n ← column.step stepText
  Stride.range start stop n

/-- A range, or a number where no lower end stands before a minus sign. What follows a second minus
sign is not looked at. -/
def resolveRange (column : Column) (text stepText : Text) : Except Fault Resolved :=
  match Text.cut? '-' text with
  | none => .single <$> column.scalar text
  | some (low, rest) =>
    if low.isEmpty then .single <$> column.scalar text
    else .run <$> column.resolveEnds text low (rest.takeWhile (· ≠ '-')) stepText

/-- The range before a step. A lone number runs up to the greatest value. -/
def steppedBase (column : Column) (base : Text) : Text :=
  if !base.isEmpty && !base.contains '-' then base ++ '-' :: Text.ofInt column.bounds.max else base

/-- Resolves an atom. Of several steps the last one counts. -/
def resolve (column : Column) (atom : Text) : Except Fault Resolved :=
  match Text.cut? '/' atom with
  | none => column.resolveRange atom ['1']
  | some (base, rest) =>
    column.resolveRange (column.steppedBase base) ((Text.pieces '/' rest).getLastD [])

end Column
end Crontab
