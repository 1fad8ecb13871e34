import Crontab.Text.WordCharacter
import Crontab.Value

/-! # Environment variables in values

A reference `${NAME}` in a text stands for the variable of that name. The text of
a variable is not searched again, and references to unset variables stay.
-/
namespace Crontab

/-- Variables with their texts, each name once. -/
abbrev Environment := List (Text × Text)

namespace Environment

def add (env : Environment) (name text : Text) : Environment :=
  if (env.lookup name).isSome then env else env ++ [(name, text)]

inductive Piece
  | literal (c : Char)
  | reference (name : Text)
  deriving DecidableEq, Repr

/-- The name referred to at the start of a text, and what follows the reference. -/
def reference? : Text → Option (Text × Text)
  | '$' :: '\x7b' :: t =>
    let name := t.takeWhile Text.isWordCharacter
    match t.dropWhile Text.isWordCharacter with
    | '\x7d' :: rest => if name.isEmpty then none else some (name, rest)
    | _ => none
  | _ => none

theorem length_lt_of_reference? {t name rest : Text} (h : reference? t = some (name, rest)) :
    rest.length < t.length := by
  unfold reference? at h
  split at h
  · rename_i s
    simp only at h
    split at h
    · rename_i after hdrop
      split at h
      · exact absurd h (by simp)
      · simp only [Option.some.injEq, Prod.mk.injEq] at h
        have hle := (List.dropWhile_suffix (l := s) Text.isWordCharacter).length_le
        rw [hdrop] at hle
        simp only [List.length_cons] at hle ⊢
        rw [← h.2]
        omega
    · exact absurd h (by simp)
  · exact absurd h (by simp)

def pieces (t : Text) : List Piece :=
  match t with
  | [] => []
  | c :: rest =>
    match _h : reference? (c :: rest) with
    | some (name, after) => .reference name :: pieces after
    | none => .literal c :: pieces rest
termination_by t.length
decreasing_by
  · exact length_lt_of_reference? ‹_›
  · exact Nat.lt_succ_self rest.length

namespace Piece

def written : Piece → Text
  | .literal c => [c]
  | .reference name => '$' :: '\x7b' :: name ++ ['\x7d']

def expanded (env : Environment) : Piece → Text
  | .literal c => [c]
  | .reference name => (env.lookup name).getD (Piece.reference name).written

def unset? (env : Environment) : Piece → Option Text
  | .literal _ => none
  | .reference name => if (env.lookup name).isSome then none else some name

end Piece

def references (t : Text) : List Text :=
  (pieces t).filterMap fun piece =>
    match piece with
    | .literal _ => none
    | .reference name => some name

/-- The text with its references replaced, and the names that are not set. -/
def substitute (env : Environment) (t : Text) : Text × List Text :=
  let ps := pieces t
  (ps.flatMap (Piece.expanded env), ps.filterMap (Piece.unset? env))

mutual

/-- The value with the references in its texts replaced, and the names that are not set, in order.
The keys of maps are left alone. -/
def resolve (env : Environment) : Value → Value × List Text
  | .text t =>
    let (t, unset) := substitute env t
    (.text t, unset)
  | .list items =>
    let (items, unset) := resolveItems env items
    (.list items, unset)
  | .map entries =>
    let (entries, unset) := resolveEntries env entries
    (.map entries, unset)
  | v => (v, [])

def resolveItems (env : Environment) : List Value → List Value × List Text
  | [] => ([], [])
  | item :: rest =>
    let (item, unset) := resolve env item
    let (rest, others) := resolveItems env rest
    (item :: rest, unset ++ others)

def resolveEntries (env : Environment) : List (Value × Value) → List (Value × Value) × List Text
  | [] => ([], [])
  | (key, item) :: rest =>
    let (item, unset) := resolve env item
    let (rest, others) := resolveEntries env rest
    ((key, item) :: rest, unset ++ others)

end

def warning (name : Text) : String :=
  s!"Config references unset variable {String.ofList name}"

end Environment
end Crontab
