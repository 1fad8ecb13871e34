import Crontab.Text.Basic

/-! # Blanks and words

Blanks are the white space of Unicode together with the four information
separators. A word is a maximal run of other characters.
-/
namespace Crontab.Text

/-- White space: the C0 and C1 line and field controls and the Unicode separators. -/
def isBlank (c : Char) : Bool :=
  let n := c.toNat
  (0x9 ≤ n && n ≤ 0xD) || (0x1C ≤ n && n ≤ 0x20) || n == 0x85 || n == 0xA0 || n == 0x1680 ||
    (0x2000 ≤ n && n ≤ 0x200A) || n == 0x2028 || n == 0x2029 || n == 0x202F || n == 0x205F ||
    n == 0x3000

def words : Text → List Text
  | [] => []
  | c :: rest =>
    if isBlank c then words rest
    else if (rest.head?.map isBlank).getD true then [c] :: words rest
    else
      match words rest with
      | [] => [[c]]
      | word :: more => (c :: word) :: more

/-- The text without the characters satisfying `p` at either end. -/
def trimmedOf (p : Char → Bool) (t : Text) : Text :=
  ((t.dropWhile p).reverse.dropWhile p).reverse

def trimmed (t : Text) : Text :=
  trimmedOf isBlank t

def trimmedEnd (t : Text) : Text :=
  (t.reverse.dropWhile isBlank).reverse

end Crontab.Text
