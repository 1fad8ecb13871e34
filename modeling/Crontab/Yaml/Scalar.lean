import Crontab.Value

/-! # Plain scalars

An unquoted scalar is nothing, a truth value, an integer or a number with a point
if it is written like one; otherwise it is a text.
-/
namespace Crontab.Yaml

def nullWords : List Text :=
  ["".toList, "~".toList, "null".toList, "Null".toList, "NULL".toList]

def trueWords : List Text :=
  ["yes".toList, "Yes".toList, "YES".toList, "true".toList, "True".toList, "TRUE".toList,
   "on".toList, "On".toList, "ON".toList]

def falseWords : List Text :=
  ["no".toList, "No".toList, "NO".toList, "false".toList, "False".toList, "FALSE".toList,
   "off".toList, "Off".toList, "OFF".toList]

/-- The decimal integer that a text writes: a sign, and digits without a zero in front. -/
def integer? (t : Text) : Option Int :=
  let (negative, digits) := Text.signed t
  let isWritten :=
    match digits with
    | [] => false
    | ['0'] => true
    | first :: rest =>
      '1' ≤ first && first ≤ '9' && rest.all fun c => Text.isAsciiDigit c || c = '_'
  if isWritten then
    let n := Text.value (digits.filter (· ≠ '_'))
    some (if negative then -(n : Int) else n)
  else none

def float? (t : Text) : Option Binary64 :=
  if t.contains '.' && !t.contains 'i' && !t.contains 'n' then
    Binary64.read? (t.filter (· ≠ '_'))
  else none

def scalar (t : Text) : Value :=
  if nullWords.contains t then .null
  else if trueWords.contains t then .bool true
  else if falseWords.contains t then .bool false
  else
    match integer? t, float? t with
    | some n, _ => .int n
    | none, some x => .float x
    | none, none => .text t

end Crontab.Yaml
