import Crontab.Calendar.Parts
import Crontab.Reading
import Crontab.Settings.Path

/-! # Settings

The zone in which instants are evaluated, the level of the log, and the named
schedules. Settings are read from the entries of a map; every entry may be missing.
-/
namespace Crontab

structure Settings where
  home : Text
  timezone? : Option Text
  utc : Bool
  level : Text
  schedules : List (Text × Text)
  deriving DecidableEq, Repr

namespace Settings
open Checked

/-- The zone in which instants are evaluated; universal time wins over a named zone. -/
def effectiveZone? (s : Settings) : Option Text :=
  if s.utc then some universalZone else s.timezone?

def homePath (s : Settings) (homes : Text → Option Text) (env : Environment) : Except Fault Path :=
  ((Path.ofText s.home).expandUser homes env).mapError .settings

def readCron : Value → Checked (Option Text × Bool)
  | .map entries =>
    both (Value.optional entries "timezone" none Value.textOrNull)
      (Value.optional entries "utc" false Value.flag)
  | _ => complain (.notSection "CronConfig")

def defaultLevel : Text := "INFO".toList

def readLogging : Value → Checked Text
  | .map entries => Value.optional entries "level" defaultLevel Value.textOnly
  | _ => complain (.notSection "LoggingConfig")

def placeOf : Value → Place
  | .text t => .key t
  | .int n => .index n
  | .bool b => .index (if b then 1 else 0)
  | v => .key v.display.toList

/-- Reads entries whose keys and values are texts. A fault of a key stands before that of its
value. -/
def readTexts : List (Value × Value) → Checked (List (Text × Text))
  | [] => .ok []
  | (key, value) :: rest =>
    let entry := inside (placeOf key) <|
      both (inside (.key "[key]".toList) key.textOnly) value.textOnly
    (fun (entry, entries) => entry :: entries) <$> both entry (readTexts rest)

def readSchedules : Value → Checked (List (Text × Text))
  | .map entries => readTexts entries
  | _ => complain .notMap

def read (defaultHome : Text) (entries : List (Value × Value)) : Except Fault Settings :=
  forModel "AppConfig" <|
    (fun (home, (timezone?, utc), level, schedules) =>
        { home, timezone?, utc, level, schedules }) <$>
      (both (Value.optional entries "home_dir" defaultHome Value.textOnly) <|
        both (Value.optional entries "cron" (none, false) readCron) <|
        both (Value.optional entries "logging" defaultLevel readLogging)
          (Value.optional entries "schedules" [] readSchedules))

end Settings
end Crontab
