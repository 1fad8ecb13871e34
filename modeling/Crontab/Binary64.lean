import Crontab.Text.Numeral

/-! # Binary floating point numbers

A finite number is a sign and an exact magnitude `mantissa * 2 ^ exponent`.
Rounding is to nearest, ties to even, on exact integers. The printed form has
the fewest digits that read back as the same number.
-/
namespace Crontab

/-- A binary number with 53 bits of precision. -/
inductive Binary64
  | nan
  | infinite (negative : Bool)
  | finite (negative : Bool) (mantissa : Nat) (exponent : Int)
  deriving DecidableEq, Repr

/-- The integer nearest to `num / den`, a half going to the even neighbour. -/
def roundHalfEven (num den : Nat) : Nat :=
  let q := num / den
  let r := num % den
  if den < 2 * r || (2 * r == den && q % 2 == 1) then q + 1 else q

namespace Binary64

def leastExponent : Int := -1074

def greatestExponent : Int := 971

/-- `num / den` divided by `2 ^ exponent`, as a numerator and a denominator. -/
def scaled (num den : Nat) (exponent : Int) : Nat × Nat :=
  if exponent < 0 then (num * Nat.pow 2 (-exponent).toNat, den)
  else (num, den * Nat.pow 2 exponent.toNat)

/-- The exponent that leaves 53 bits before the point of `num / den`, or the least one. -/
def exponentFor (num den : Nat) : Int :=
  let low := max ((num.log2 : Int) - den.log2 - 53) leastExponent
  let (n, d) := scaled num den low
  if Nat.pow 2 53 ≤ n / d then low + 1 else low

def nearest (negative : Bool) (num den : Nat) : Binary64 :=
  if num = 0 then .finite negative 0 leastExponent
  else
    let exponent := exponentFor num den
    let (n, d) := scaled num den exponent
    let m := roundHalfEven n d
    let (m, exponent) := if m = Nat.pow 2 53 then (Nat.pow 2 52, exponent + 1) else (m, exponent)
    if greatestExponent < exponent then .infinite negative else .finite negative m exponent

def ofDecimal (negative : Bool) (digits : Nat) (exponent : Int) : Binary64 :=
  if exponent < 0 then nearest negative digits (Nat.pow 10 (-exponent).toNat)
  else nearest negative (digits * Nat.pow 10 exponent.toNat) 1

def magnitude (mantissa : Nat) (exponent : Int) : Nat × Nat :=
  if exponent < 0 then (mantissa, Nat.pow 2 (-exponent).toNat)
  else (mantissa * Nat.pow 2 exponent.toNat, 1)

/-- The integer that the number is; `none` where there is a fraction, or no number. -/
def integer? : Binary64 → Option Int
  | .finite negative mantissa exponent =>
    let (n, d) := magnitude mantissa exponent
    if n % d = 0 then some (if negative then -(n / d : Nat) else (n / d : Nat)) else none
  | _ => none

structure Digits where
  significand : Nat
  exponent : Int

/-- The nearer of the two neighbours of `num / den` among the multiples of `10 ^ exponent`
that read back as the number, if one does. -/
def neighbour? (num den : Nat) (x : Binary64) (exponent : Int) : Option Digits :=
  let (n, d) :=
    if exponent < 0 then (num * Nat.pow 10 (-exponent).toNat, den)
    else (num, den * Nat.pow 10 exponent.toNat)
  let below := n / d
  let near := roundHalfEven n d
  let far := if near = below then below + 1 else below
  ([near, far].find? fun s => s != 0 && ofDecimal false s exponent == x).map (⟨·, exponent⟩)

/-- A power of ten that is no finer than the first digit of `num / den`. -/
def coarsestExponent (num den : Nat) : Int :=
  if den ≤ num then (Text.ofNat (num / den)).length
  else 1 - (Text.ofNat ((den + num - 1) / num)).length

/-- The fewest digits that read back as the magnitude. -/
def shortest (mantissa : Nat) (exponent : Int) : Digits :=
  let (num, den) := magnitude mantissa exponent
  let coarsest := coarsestExponent num den
  let tries := (List.range 20).findSome? fun (finer : Nat) =>
    neighbour? num den (.finite false mantissa exponent) (coarsest - finer)
  tries.getD ⟨0, 0⟩

def Digits.stripped (x : Digits) : Digits :=
  let zeros := ((Text.ofNat x.significand).reverse.takeWhile (· == '0')).length
  if x.significand = 0 then ⟨0, 0⟩ else ⟨x.significand / Nat.pow 10 zeros, x.exponent + zeros⟩

/-- Numbers from `10 ^ -4` up to `10 ^ 16` are written with a point, others with an exponent. -/
def Digits.text (x : Digits) : Text :=
  let digits := Text.ofNat x.significand
  let point : Int := digits.length + x.exponent
  if -4 < point && point ≤ 16 then
    if point ≤ 0 then '0' :: '.' :: List.replicate (-point).toNat '0' ++ digits
    else if point < digits.length then digits.take point.toNat ++ '.' :: digits.drop point.toNat
    else digits ++ List.replicate (point.toNat - digits.length) '0' ++ ['.', '0']
  else
    let power := point - 1
    let size := Text.ofNat power.natAbs
    let fraction := if digits.length = 1 then [] else '.' :: digits.drop 1
    digits.take 1 ++ fraction ++ 'e' :: (if power < 0 then '-' else '+') ::
      List.replicate (2 - size.length) '0' ++ size

def digits (mantissa : Nat) (exponent : Int) : Digits :=
  if mantissa = 0 then ⟨0, 0⟩ else (shortest mantissa exponent).stripped

def text : Binary64 → Text
  | .nan => ['n', 'a', 'n']
  | .infinite negative => (if negative then ['-'] else []) ++ ['i', 'n', 'f']
  | .finite negative mantissa exponent =>
    (if negative then ['-'] else []) ++ (digits mantissa exponent).text

def readExponent? (t : Text) : Option Int :=
  match t with
  | [] => some 0
  | c :: rest =>
    let (negative, size) := Text.signed rest
    if (c = 'e' || c = 'E') && Text.isAsciiNumeral size then
      some (if negative then -(Text.value size : Int) else Text.value size)
    else none

/-- Reads digits with at most one point, an exponent, or one of the words `nan` and `inf`. -/
def read? (t : Text) : Option Binary64 :=
  let (negative, unsigned) := Text.signed t
  if unsigned = ['n', 'a', 'n'] then some .nan
  else if unsigned = ['i', 'n', 'f'] then some (.infinite negative)
  else do
    let (whole, rest) := unsigned.span Text.isAsciiDigit
    let (fraction, rest) :=
      match rest with
      | '.' :: rest => rest.span Text.isAsciiDigit
      | rest => ([], rest)
    if whole.isEmpty && fraction.isEmpty then none
    let exponent ← readExponent? rest
    some (ofDecimal negative (Text.value (whole ++ fraction)) (exponent - fraction.length))

end Binary64
end Crontab
