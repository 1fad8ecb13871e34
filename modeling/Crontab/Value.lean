import Crontab.Binary64
import Crontab.Text.Quoted

/-! # Values

Data whose shape is not known in advance: what a settings document holds, or what
a caller hands over in place of an expression or an instant.
-/
namespace Crontab

/-- Scalars, lists and maps. The keys of a map are distinct and keep their order. -/
inductive Value
  | null
  | bool (b : Bool)
  | int (n : Int)
  | float (x : Binary64)
  | text (t : Text)
  | list (items : List Value)
  | map (entries : List (Value × Value))
  deriving Inhabited

namespace Value

/-- The name of a value's type as error messages give it. -/
def kind : Value → String
  | .null => "NoneType"
  | .bool _ => "bool"
  | .int _ => "int"
  | .float _ => "float"
  | .text _ => "str"
  | .list _ => "list"
  | .map _ => "dict"

mutual

/-- The value as messages show it. -/
def display : Value → String
  | .null => "None"
  | .bool b => if b then "True" else "False"
  | .int n => String.ofList (Text.ofInt n)
  | .float x => String.ofList x.text
  | .text t => Text.quoted t
  | .list items => "[" ++ displayItems items ++ "]"
  | .map entries => "\x7b" ++ displayEntries entries ++ "\x7d"

def displayItems : List Value → String
  | [] => ""
  | [item] => item.display
  | item :: rest => item.display ++ ", " ++ displayItems rest

def displayEntries : List (Value × Value) → String
  | [] => ""
  | [(key, item)] => key.display ++ ": " ++ item.display
  | (key, item) :: rest => key.display ++ ": " ++ item.display ++ ", " ++ displayEntries rest

end

mutual

/-- Whether no number in the value has too many digits to be displayed. -/
def isWritable : Value → Bool
  | .int n => Text.isWritable n
  | .list items => areWritable items
  | .map entries => areWritableEntries entries
  | _ => true

def areWritable : List Value → Bool
  | [] => true
  | item :: rest => item.isWritable && areWritable rest

def areWritableEntries : List (Value × Value) → Bool
  | [] => true
  | (key, item) :: rest => key.isWritable && item.isWritable && areWritableEntries rest

end

/-- Whether the value is empty or zero, and so counts as absent. -/
def isVoid : Value → Bool
  | .null => true
  | .bool b => !b
  | .int n => n == 0
  | .float x => x.integer? == some 0
  | .text t => t.isEmpty
  | .list items => items.isEmpty
  | .map entries => entries.isEmpty

def text? : Value → Option Text
  | .text t => some t
  | _ => none

def lookup? (key : Text) : List (Value × Value) → Option Value
  | [] => none
  | (k, v) :: rest => if k.text? = some key then some v else lookup? key rest

/-- The entries with `value` stored under `key`, in the place of an older value if there is one. -/
def store (key : Text) (value : Value) : List (Value × Value) → List (Value × Value)
  | [] => [(.text key, value)]
  | (k, v) :: rest =>
    if k.text? = some key then (k, value) :: rest else (k, v) :: store key value rest

end Value
end Crontab
