import Crontab.Field.Atom

/-! # Merging

Values are collected in one ascending list. A value is kept only if it exceeds
everything collected before it.
-/
namespace Crontab

/-- The values above a bound and above every value kept before them. -/
def records (bound : Int) : List Int → List Int
  | [] => []
  | v :: rest => if bound < v then v :: records v rest else records bound rest

namespace Resolved

def written : Resolved → List Int
  | .single value => [value]
  | .run values => values

/-- The values as they are scheduled. Only a single day of the week is folded. -/
def values (column : Column) : Resolved → List Int
  | .single value => [if column.weekly then value % 7 else value]
  | .run values => values

end Resolved

namespace Column

def runningMax (collected : List Int) : Int :=
  collected.getLastD (-1)

/-- Adds what an atom stands for. A value out of bounds is a fault even if it would be dropped. -/
def merge (column : Column) (collected : List Int) (resolved : Resolved) :
    Except Fault (List Int) :=
  match resolved.written.find? fun v => !decide (column.bounds.Contains v) with
  | some v => throw (.parse (.valueOutside column.label v column.bounds))
  | none => return collected ++ records (runningMax collected) (resolved.values column)

end Column
end Crontab
