import Crontab.Fault

/-! # Log levels

Levels are named in any case; a name that is not known means the level of information.
-/
namespace Crontab.CommandLine

def severities : List (Text × Nat) :=
  [("DEBUG".toList, 10), ("INFO".toList, 20), ("WARNING".toList, 30), ("WARN".toList, 30),
   ("ERROR".toList, 40), ("CRITICAL".toList, 50), ("FATAL".toList, 50), ("NOTSET".toList, 0)]

def information : Nat := 20

/-- The name under which the format of messages is kept among the levels. -/
def formatName : Text := "BASIC_FORMAT".toList

def messageFormat : String := "%(levelname)s:%(name)s:%(message)s"

/-- The upper case of the letters of level names. -/
def upper (c : Char) : Char :=
  if 'a' ≤ c && c ≤ 'z' then Char.ofNat (c.toNat - 32)
  else if c = '\u0131' then 'I'
  else if c = '\u017F' then 'S'
  else c

def severity (level : Text) : Except Fault Nat :=
  let name := level.map upper
  if name = formatName then throw (.unknownLogLevel messageFormat)
  else return (severities.lookup name).getD information

end Crontab.CommandLine
