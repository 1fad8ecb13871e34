import Crontab.Schedule.Match

/-! # Schedule books

Named schedules, all compiled before any question is asked. Answers come in the
order of the names, by code point.
-/
namespace Crontab

/-- The lexicographic order by code point. -/
def Text.atMost : Text → Text → Bool
  | [], _ => true
  | _ :: _, [] => false
  | a :: as, b :: bs => a < b || (a == b && Text.atMost as bs)

/-- Compiled schedules by name, read on the clock of one zone. -/
structure Book where
  schedules : List (Text × Schedule)
  zone? : Option Text
  provider : Provider

namespace Book
variable {α : Type}

/-- Stores an entry under its name, in the place of an older one if there is one. -/
def put (name : Text) (entry : α) : List (Text × α) → List (Text × α)
  | [] => [(name, entry)]
  | (n, e) :: rest => if n = name then (n, entry) :: rest else (n, e) :: put name entry rest

/-- The entries with distinct names; of several under one name the last counts. -/
def distinct (entries : List (Text × α)) : List (Text × α) :=
  entries.foldl (fun stored (name, entry) => put name entry stored) []

/-- Compiles expressions in order. A fault of an expression is reported with the name. -/
def compileAll : List (Text × Value) → Except Fault (List (Text × Schedule))
  | [] => return []
  | (name, expression) :: rest =>
    match Schedule.compileValue expression with
    | .error (.parse cause) => throw (.parse (.scheduled name cause))
    | .error fault => throw fault
    | .ok schedule => return (name, schedule) :: (← compileAll rest)

def ofExpressions (expressions : List (Text × Value)) (zone? : Option Text) (provider : Provider) :
    Except Fault Book := do
  let schedules ← compileAll (distinct expressions)
  return ⟨schedules, zone?, provider⟩

def size (b : Book) : Nat :=
  b.schedules.length

def contains (b : Book) (name : Text) : Bool :=
  (b.schedules.lookup name).isSome

def sorted (b : Book) : List (Text × Schedule) :=
  b.schedules.mergeSort fun x y => Text.atMost x.1 y.1

def names (b : Book) : List Text :=
  b.sorted.map (·.1)

def get (b : Book) (name : Text) : Except Fault Schedule :=
  match b.schedules.lookup name with
  | some schedule => return schedule
  | none => throw (.unknownName name)

def isDue (b : Book) (name : Text) (instant : Instant) : Except Fault Bool := do
  (← b.get name).matchesInstant b.provider instant b.zone?

/-- The names among the entries whose schedules are due; the first fault ends the search. -/
def dueAmong (b : Book) (instant : Instant) : List (Text × Schedule) → Except Fault (List Text)
  | [] => return []
  | (name, schedule) :: rest => do
    let isDue ← schedule.matchesInstant b.provider instant b.zone?
    let others ← b.dueAmong instant rest
    return if isDue then name :: others else others

def due (b : Book) (instant : Instant) : Except Fault (List Text) :=
  b.dueAmong instant b.sorted

end Book
end Crontab
