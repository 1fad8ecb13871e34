import Crontab.ParseError
import Crontab.Report

/-! # Faults

Everything that can go wrong, by cause. `Fault.isCronFault` singles out the faults
of expressions, instants and zones, which the command line reports by itself.
-/
namespace Crontab

/-- Why an instant has no calendar parts. -/
inductive CalendarError
  | unsupportedInstant (value : Value)
  /-- An instant that is not supported has a number with too many digits to be shown. -/
  | unwritableInstant
  | malformedInstant (text : Text)
  | unknownZone (name : Text)
  | yearOutOfRange (year : Int)
  | monthOutOfRange
  | dayOutOfRange
  /-- A unit of the time of day beyond its greatest value. -/
  | unitOutOfRange (unit : String) (greatest : Int)
  | notANumber
  | timestampOutOfRange
  /-- A timestamp has a year that the platform does not count to. -/
  | timestampTooLarge
  /-- A conversion between zones leaves the years 1 to 9999. -/
  | dateOutOfRange

/-- Why settings cannot be loaded. -/
inductive SettingsError
  | unreadableFile
  | malformedDocument
  /-- The document is a list or a scalar, and the home directory cannot be put into it. -/
  | noPlaceForHome (kind : String)
  /-- The document is a list or a scalar. -/
  | notAMap (kind : String)
  | keyNotText
  | noHomeDirectory
  /-- A variable has a name or a text that the environment does not take. -/
  | embeddedNull
  | illegalVariable

inductive Fault
  | parse (cause : ParseError)
  /-- A run of digits is too long to be read as a number. -/
  | digitLimit (count : Nat)
  /-- A number has too many digits to be written. -/
  | unwritableNumber
  | zeroStep
  | unknownName (name : Text)
  | invalid (report : Report)
  /-- A month is given a day that it does not have. -/
  | dayOutsideMonth (month day : Int)
  | calendar (cause : CalendarError)
  | settings (cause : SettingsError)
  | unknownLogLevel (level : String)

/-- The message for a number with too many digits to be written. -/
def unwritableMessage : String :=
  s!"Exceeds the limit ({Text.digitLimit} digits) for integer string conversion; " ++
    "use sys.set_int_max_str_digits() to increase the limit"

namespace CalendarError

def message : CalendarError → String
  | .unsupportedInstant value => s!"Unsupported instant: {value.display}"
  | .unwritableInstant => unwritableMessage
  | .malformedInstant text => s!"Invalid ISO-8601 instant: {Text.quoted text}"
  | .unknownZone name => s!"Unknown time zone: {Text.quoted name}"
  | .yearOutOfRange year => s!"year {year} is out of range"
  | .monthOutOfRange => "month must be in 1..12"
  | .dayOutOfRange => "day is out of range for month"
  | .unitOutOfRange unit greatest => s!"{unit} must be in 0..{greatest}"
  | .notANumber => "Invalid value NaN (not a number)"
  | .timestampOutOfRange => "timestamp out of range for platform time_t"
  | .timestampTooLarge => "[Errno 75] Value too large for defined data type"
  | .dateOutOfRange => "date value out of range"

end CalendarError

namespace SettingsError

def message : SettingsError → String
  | .unreadableFile => "file cannot be read"
  | .malformedDocument => "document cannot be read"
  | .noPlaceForHome kind =>
    if kind = "list" then "list indices must be integers or slices, not str"
    else s!"'{kind}' object does not support item assignment"
  | .notAMap kind => s!"core.config.AppConfig() argument after ** must be a mapping, not {kind}"
  | .keyNotText => "keywords must be strings"
  | .noHomeDirectory => "Could not determine home directory."
  | .embeddedNull => "embedded null byte"
  | .illegalVariable => "illegal environment variable name"

end SettingsError

namespace Fault

def message : Fault → String
  | .parse cause => cause.message
  | .digitLimit count =>
    s!"Exceeds the limit ({Text.digitLimit} digits) for integer string conversion: " ++
      s!"value has {count} digits; use sys.set_int_max_str_digits() to increase the limit"
  | .unwritableNumber => unwritableMessage
  | .zeroStep => "integer modulo by zero"
  | .unknownName name => Text.quoted name
  | .invalid report => s!"{report.findings.length} validation errors for {report.model}"
  | .dayOutsideMonth month day =>
    s!"Invalid explicit day of month definition: day {day} in month {month}"
  | .calendar cause => cause.message
  | .settings cause => cause.message
  | .unknownLogLevel level => s!"Unknown level: {Text.quoted level.toList}"

/-- Faults of an expression, an instant or a zone name. -/
def isCronFault : Fault → Bool
  | .parse _ => true
  | .dayOutsideMonth _ _ => true
  | .calendar (.unsupportedInstant _) => true
  | .calendar (.malformedInstant _) => true
  | .calendar (.unknownZone _) => true
  | _ => false

end Fault
end Crontab
