import Crontab.Field.Basic
import Crontab.Value

/-! # Why an expression cannot be compiled

Each cause carries the label of its column and the text or number at fault. The
wording is fixed in `ParseError.message`.
-/
namespace Crontab

inductive ParseError
  /-- The expression is no text at all. -/
  | notText (kind : String)
  | unknownAlias (label : String) (name : Text)
  /-- A column has a character outside its alphabet after the names are replaced. -/
  | strayCharacter (label : String) (raw replaced : Text)
  | notANumber (label : String) (text : Text)
  | badStep (label : String) (text : Text)
  /-- The lower end of a range is not below the upper one, or an end is not a number. -/
  | badRange (label : String) (text : Text)
  | rangeOutside (label : String) (text : Text) (start stop : Int) (bounds : Bounds)
  | valueOutside (label : String) (value : Int) (bounds : Bounds)
  /-- The fault is in the schedule of that name. -/
  | scheduled (name : Text) (cause : ParseError)

namespace ParseError

inductive Kind
  | expression
  | alias
  | character
  | step
  | range
  | bounds
  deriving DecidableEq, Repr

def kind : ParseError → Kind
  | .notText _ => .expression
  | .unknownAlias .. => .alias
  | .strayCharacter .. => .character
  | .notANumber .. => .character
  | .badStep .. => .step
  | .badRange .. => .range
  | .rangeOutside .. => .bounds
  | .valueOutside .. => .bounds
  | .scheduled _ cause => cause.kind

def label? : ParseError → Option String
  | .notText _ => none
  | .unknownAlias label _ => some label
  | .strayCharacter label _ _ => some label
  | .notANumber label _ => some label
  | .badStep label _ => some label
  | .badRange label _ => some label
  | .rangeOutside label _ _ _ _ => some label
  | .valueOutside label _ _ => some label
  | .scheduled _ cause => cause.label?

def subject : ParseError → Value
  | .notText _ => .null
  | .unknownAlias _ name => .text name
  | .strayCharacter _ raw _ => .text raw
  | .notANumber _ text => .text text
  | .badStep _ text => .text text
  | .badRange _ text => .text text
  | .rangeOutside _ text _ _ _ => .text text
  | .valueOutside _ value _ => .int value
  | .scheduled _ cause => cause.subject

def message : ParseError → String
  | .notText kind => s!"Cron expression must be a string, got {kind}"
  | .unknownAlias label name => s!"Cannot resolve alias {Text.quoted name} for {label}"
  | .strayCharacter label _ replaced =>
    s!"Invalid characters in {label}, got value: {Text.quoted replaced}"
  | .notANumber label text => s!"Invalid value for {label}: {Text.quoted text}"
  | .badStep label text => s!"Cannot repeat {label} at every {Text.quoted text}"
  | .badRange label text => s!"Invalid range for {label}: {Text.quoted text}"
  | .rangeOutside label _ start stop bounds =>
    s!"Constraint error for {label}, got range {start}-{stop} " ++
      s!"expected range {String.ofList bounds.text}"
  | .valueOutside label value bounds =>
    s!"Constraint error for {label}, got value {value} " ++
      s!"expected range {String.ofList bounds.text}"
  | .scheduled name cause => s!"Schedule {Text.quoted name}: " ++ cause.message

end ParseError
end Crontab
