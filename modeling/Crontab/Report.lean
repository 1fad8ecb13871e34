import Crontab.Field.Basic
import Crontab.Value

/-! # Validation reports

What was found wrong in data that should have had a given shape: for each
finding its place and the complaint.
-/
namespace Crontab

/-- A step into nested data: a key of a map, or an index of a list. -/
inductive Place
  | key (name : Text)
  | index (n : Int)
  deriving DecidableEq, Repr

inductive Complaint
  | missing
  | notInteger
  | integerText
  | integerLength
  | fraction
  | notFinite
  | atLeast (bound : Int)
  | atMost (bound : Int)
  | notList
  | notFlag
  | flagText
  | notText
  | notMap
  /-- A section that should be a map for the model of that name. -/
  | notSection (model : String)
  | outside (field : Field) (value : Int)
  /-- Scheduled values out of order. -/
  | unordered (field : Field) (values : List Int)
  deriving DecidableEq, Repr

structure Finding where
  place : List Place
  complaint : Complaint
  deriving DecidableEq, Repr

structure Report where
  model : String
  findings : List Finding
  deriving DecidableEq, Repr

namespace Complaint

def code : Complaint → String
  | .missing => "missing"
  | .notInteger => "int_type"
  | .integerText => "int_parsing"
  | .integerLength => "int_parsing_size"
  | .fraction => "int_from_float"
  | .notFinite => "finite_number"
  | .atLeast _ => "greater_than_equal"
  | .atMost _ => "less_than_equal"
  | .notList => "tuple_type"
  | .notFlag => "bool_type"
  | .flagText => "bool_parsing"
  | .notText => "string_type"
  | .notMap => "dict_type"
  | .notSection _ => "model_type"
  | .outside .. => "value_error"
  | .unordered .. => "value_error"

def bracketed (values : List Int) : String :=
  "(" ++ String.intercalate ", " (values.map fun v => String.ofList (Text.ofInt v)) ++ ")"

def message : Complaint → String
  | .missing => "Field required"
  | .notInteger => "Input should be a valid integer"
  | .integerText => "Input should be a valid integer, unable to parse string as an integer"
  | .integerLength => "Unable to parse input string as an integer, exceeded maximum size"
  | .fraction => "Input should be a valid integer, got a number with a fractional part"
  | .notFinite => "Input should be a finite number"
  | .atLeast bound => s!"Input should be greater than or equal to {bound}"
  | .atMost bound => s!"Input should be less than or equal to {bound}"
  | .notList => "Input should be a valid tuple"
  | .notFlag => "Input should be a valid boolean"
  | .flagText => "Input should be a valid boolean, unable to interpret input"
  | .notText => "Input should be a valid string"
  | .notMap => "Input should be a valid dictionary"
  | .notSection model => s!"Input should be a valid dictionary or instance of {model}"
  | .outside field value =>
    s!"Value error, {field.name} value {value} outside {String.ofList field.bounds.text}"
  | .unordered field values =>
    s!"Value error, {field.name} values must be strictly ascending: {bracketed values}"

end Complaint
end Crontab
