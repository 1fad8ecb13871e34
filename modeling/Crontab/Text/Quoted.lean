import Crontab.Text.Basic
import Crontab.Text.Printable

/-! # Quoted text

Error messages show texts in quotes. The quotes are single unless the text has
a single quote and no double one. Characters that are not printable are written by number.
-/
namespace Crontab.Text

def quotationMark (t : Text) : Char :=
  if t.contains '\x27' && !t.contains '\x22' then '\x22' else '\x27'

/-- Lower-case hexadecimal with leading zeros up to the width. -/
def hexadecimal (width n : Nat) : Text :=
  let digits := Nat.toDigits 16 n
  List.replicate (width - digits.length) '0' ++ digits

def escaped (mark c : Char) : Text :=
  if c = mark || c = '\\' then ['\\', c]
  else if c = '\n' then ['\\', 'n']
  else if c = '\r' then ['\\', 'r']
  else if c = '\t' then ['\\', 't']
  else if isPrintable c then [c]
  else if c.toNat < 0x100 then '\\' :: 'x' :: hexadecimal 2 c.toNat
  else if c.toNat < 0x10000 then '\\' :: 'u' :: hexadecimal 4 c.toNat
  else '\\' :: 'U' :: hexadecimal 8 c.toNat

def quoted (t : Text) : String :=
  let mark := quotationMark t
  String.ofList (mark :: t.flatMap (escaped mark) ++ [mark])

end Crontab.Text
