import Crontab.Text.Digit

/-! # Decimal numerals

Numbers are written with ordinary digits and read from digits of any script,
leading zeros allowed. A run longer than `digitLimit` is not read as a number.
-/
namespace Crontab.Text

/-- The most digits that are read or written as one number. -/
def digitLimit : Nat := 4300

def ofNat (n : Nat) : Text :=
  Nat.toDigits 10 n

def ofInt : Int → Text
  | .ofNat n => ofNat n
  | .negSucc n => '-' :: ofNat (n + 1)

/-- Whether a number has no more digits than are written. A sign is not counted. -/
def isWritable (n : Int) : Bool :=
  (ofNat n.natAbs).length ≤ digitLimit

def isNumeral (t : Text) : Bool :=
  !t.isEmpty && t.all isDigit

def isAsciiNumeral (t : Text) : Bool :=
  !t.isEmpty && t.all isAsciiDigit

/-- Splits a sign off a numeral; the flag tells a minus sign. -/
def signed : Text → Bool × Text
  | '-' :: rest => (true, rest)
  | '+' :: rest => (false, rest)
  | rest => (false, rest)

/-- The number that digits form, the first being the most significant. -/
def value (t : Text) : Nat :=
  t.foldl (fun n c => 10 * n + (digitValue? c).getD 0) 0

@[simp] theorem value_nil : value [] = 0 := rfl

theorem value_concat (t : Text) (c : Char) :
    value (t ++ [c]) = 10 * value t + (digitValue? c).getD 0 := by
  simp [value]

theorem value_ofNat (n : Nat) : value (ofNat n) = n := by
  induction n using Nat.strongRecOn with
  | _ n ih =>
    rw [ofNat, Nat.toDigits_eq_if (by decide)]
    by_cases h : n < 10
    · rw [if_pos h]
      simp [value, digitValue?_digitChar h]
    · rw [if_neg h]
      have hrest := ih (n / 10) (Nat.div_lt_self (by omega) (by decide))
      rw [ofNat] at hrest
      rw [value_concat, hrest, digitValue?_digitChar (Nat.mod_lt _ (by decide))]
      simp only [Option.getD_some]
      omega

theorem isDigit_of_mem_ofNat {n : Nat} {c : Char} (h : c ∈ ofNat n) : c.isDigit = true :=
  Nat.isDigit_of_mem_toDigits (by decide) (by decide) h

theorem eq_or_isDigit_of_mem_ofInt {n : Int} {c : Char} (h : c ∈ ofInt n) :
    c = '-' ∨ c.isDigit = true := by
  cases n with
  | ofNat n => exact .inr (isDigit_of_mem_ofNat h)
  | negSucc n => exact (List.mem_cons.mp h).imp_right isDigit_of_mem_ofNat

end Crontab.Text
