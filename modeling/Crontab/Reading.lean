import Crontab.Fault
import Crontab.Text.Blank

/-! # Reading typed data from values

A reader either gives a typed value or lists everything that is wrong. Several
readers together list the findings of all of them, in order.
-/
namespace Crontab

/-- A typed value, or the findings that prevent it. -/
abbrev Checked (α : Type) := Except (List Finding) α

namespace Checked
variable {α β : Type}

def complain (c : Complaint) : Checked α :=
  .error [⟨[], c⟩]

/-- Puts findings at a place inside a larger value. -/
def inside (place : Place) : Checked α → Checked α
  | .ok x => .ok x
  | .error findings => .error (findings.map fun f => { f with place := place :: f.place })

def both : Checked α → Checked β → Checked (α × β)
  | .ok x, .ok y => .ok (x, y)
  | .ok _, .error fs => .error fs
  | .error es, .ok _ => .error es
  | .error es, .error fs => .error (es ++ fs)

def forModel (model : String) : Checked α → Except Fault α
  | .ok x => .ok x
  | .error findings => .error (.invalid ⟨model, findings⟩)

end Checked

namespace Value
open Checked

/-- Blanks around a number: white space without the information separators. -/
def isNumberBlank (c : Char) : Bool :=
  Text.isBlank c && !(0x1C ≤ c.toNat && c.toNat ≤ 0x1F)

/-- The integer of a text: a sign, digits with single underscores between them, and a point with
zeros. -/
def integerText? (t : Text) : Option Int :=
  let (negative, digits) := Text.signed (Text.trimmedOf isNumberBlank t)
  let whole? :=
    match Text.cut? '.' digits with
    | none => some digits
    | some (whole, zeros) => if zeros.all (· == '0') then some whole else none
  whole?.bind fun whole =>
    let groups := Text.pieces '_' whole
    if groups.all Text.isAsciiNumeral then
      let n := Text.value groups.flatten
      some (if negative then -(n : Int) else n)
    else none

def integer : Value → Checked Int
  | .int n => .ok n
  | .bool b => .ok (if b then 1 else 0)
  | .float x =>
    match x with
    | .finite .. => match x.integer? with
      | some n => .ok n
      | none => complain .fraction
    | _ => complain .notFinite
  | .text t =>
    if Text.digitLimit < t.length then complain .integerLength
    else match integerText? t with
      | some n => .ok n
      | none => complain .integerText
  | _ => complain .notInteger

def integerWithin (least greatest : Int) (v : Value) : Checked Int :=
  match v.integer with
  | .error findings => .error findings
  | .ok n =>
    if n < least then complain (.atLeast least)
    else if greatest < n then complain (.atMost greatest)
    else .ok n

def flagWords : List (Text × Bool) :=
  [("0".toList, false), ("off".toList, false), ("f".toList, false), ("false".toList, false),
   ("n".toList, false), ("no".toList, false), ("1".toList, true), ("on".toList, true),
   ("t".toList, true), ("true".toList, true), ("y".toList, true), ("yes".toList, true)]

/-- A truth value: zero, one, or a word in any case. -/
def flag : Value → Checked Bool
  | .bool b => .ok b
  | .int n => if n = 0 then .ok false else if n = 1 then .ok true else complain .flagText
  | .float x =>
    if x.integer? = some 0 then .ok false
    else if x.integer? = some 1 then .ok true
    else complain .flagText
  | .text t =>
    match flagWords.lookup (t.map Char.toLower) with
    | some b => .ok b
    | none => complain .flagText
  | _ => complain .notFlag

def textOnly : Value → Checked Text
  | .text t => .ok t
  | _ => complain .notText

def textOrNull : Value → Checked (Option Text)
  | .null => .ok none
  | .text t => .ok (some t)
  | _ => complain .notText

def eachInteger (index : Int) : List Value → Checked (List Int)
  | [] => .ok []
  | item :: rest =>
    match both (inside (.index index) item.integer) (eachInteger (index + 1) rest) with
    | .ok (n, ns) => .ok (n :: ns)
    | .error findings => .error findings

def integers : Value → Checked (List Int)
  | .list items => eachInteger 0 items
  | _ => complain .notList

variable {α : Type}

def required (entries : List (Value × Value)) (key : String) (read : Value → Checked α) :
    Checked α :=
  match lookup? key.toList entries with
  | some v => inside (.key key.toList) (read v)
  | none => inside (.key key.toList) (complain .missing)

/-- The entry of a key, or what stands for it where it is missing. -/
def optional (entries : List (Value × Value)) (key : String) (absent : α)
    (read : Value → Checked α) : Checked α :=
  match lookup? key.toList entries with
  | some v => inside (.key key.toList) (read v)
  | none => .ok absent

end Value

def Bounds.read (entries : List (Value × Value)) : Except Fault Bounds :=
  Checked.forModel "FieldConstraint" <|
    (fun (low, high) => ⟨low, high⟩) <$>
      Checked.both (Value.required entries "min" Value.integer)
        (Value.required entries "max" Value.integer)

end Crontab
