import Crontab.Field.Compile
import Crontab.Schedule.Basic

/-! # Compiling expressions

An expression is a predefined name or up to six words. Missing columns stand in
front and mean every value; words past the sixth are ignored.
-/
namespace Crontab

/-- Names that stand for whole expressions. -/
def predefined : List (Text × Text) :=
  [("@yearly".toList, "0 0 1 1 *".toList), ("@monthly".toList, "0 0 1 * *".toList),
   ("@weekly".toList, "0 0 * * 0".toList), ("@daily".toList, "0 0 * * *".toList),
   ("@hourly".toList, "0 * * * *".toList)]

/-- What a column has if the expression leaves it out. -/
def defaultWord : Text := ['*']

/-- Six words, defaults in front of those that are given. -/
def Row.ofWords (given : List Text) : Row Text :=
  let six := List.replicate (6 - given.length) defaultWord ++ given.take 6
  Row.ofFn fun f => six.getD (Field.all.idxOf f) defaultWord

def splitExpression (expression : Text) : Row Text :=
  Row.ofWords (Text.words ((predefined.lookup expression).getD expression))

namespace Schedule

def compile (expression : Text) : Except Fault Schedule := do
  let words := splitExpression expression
  let row ← words.traverse fun f word => f.column.compile word
  ofRow row (Text.joined ' ' words.toList)

def compileValue : Value → Except Fault Schedule
  | .text expression => compile expression
  | other => throw (.parse (.notText other.kind))

end Schedule

def splitValue : Value → Except Fault (Row Text)
  | .text expression => return splitExpression expression
  | other => throw (.parse (.notText other.kind))

/-- Whether a value compiles. Only the faults of expressions mean that it does not. -/
def isValidExpression (value : Value) : Except Fault Bool :=
  match Schedule.compileValue value with
  | .ok _ => return true
  | .error (.parse _) => return false
  | .error fault => throw fault

end Crontab
