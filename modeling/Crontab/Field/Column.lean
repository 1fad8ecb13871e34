import Crontab.Field.Basic

/-! # Columns

What the compiler knows of the place where a text stands: the label for
messages, the bounds, the names that may stand for numbers, and whether a single
number is a day of the week.
-/
namespace Crontab

/-- Names with the numbers for which they stand. -/
abbrev AliasTable := List (Text × Nat)

structure Column where
  label : String
  bounds : Bounds
  /-- `none` where names have no meaning and letters are left alone. -/
  aliases? : Option AliasTable
  /-- Whether a single 7 means 0. -/
  weekly : Bool

namespace Field

def monthNames : AliasTable :=
  [("jan".toList, 1), ("feb".toList, 2), ("mar".toList, 3), ("apr".toList, 4), ("may".toList, 5),
   ("jun".toList, 6), ("jul".toList, 7), ("aug".toList, 8), ("sep".toList, 9), ("oct".toList, 10),
   ("nov".toList, 11), ("dec".toList, 12)]

def dayNames : AliasTable :=
  [("sun".toList, 0), ("mon".toList, 1), ("tue".toList, 2), ("wed".toList, 3), ("thu".toList, 4),
   ("fri".toList, 5), ("sat".toList, 6)]

def aliases? : Field → Option AliasTable
  | .month => some monthNames
  | .dayOfWeek => some dayNames
  | _ => none

/-- The column of a field with bounds of choice. -/
def within (f : Field) (bounds : Bounds) : Column where
  label := f.name
  bounds := bounds
  aliases? := f.aliases?
  weekly := f = .dayOfWeek

def column (f : Field) : Column :=
  f.within f.bounds

end Field

namespace Column

/-- The column of any label. A label that names no field has no aliases. -/
def labelled (label : Text) (bounds : Bounds) : Column :=
  match Field.named? label with
  | some f => f.within bounds
  | none => ⟨String.ofList label, bounds, none, false⟩

end Column
end Crontab
