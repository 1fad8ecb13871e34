import Mathlib.Algebra.Group.Int.Defs
import Mathlib.Algebra.Group.Nat.Defs
import Mathlib.Data.List.Induction
import Crontab.Field.Compile

/-! # Numerals

A numeral is a run of digits, of any script and with any leading zeros, that is
short enough to be read as one number. Digits are no letters and no separators,
so a numeral holds no name and is never cut.
-/
namespace Crontab
namespace Text
variable {c : Char} {t : Text}

theorem isDigit_iff :
    isDigit c = true ↔ ∃ first ∈ zeros, first ≤ c.toNat ∧ c.toNat < first + 10 := by
  simp only [isDigit, digitValue?, Option.isSome_map, List.find?_isSome, Bool.and_eq_true,
    decide_eq_true_eq]

theorem isDigit_of_char_isDigit (h : c.isDigit = true) : isDigit c = true := by
  obtain ⟨hlow, hhigh⟩ := Char.isDigit_iff_toNat.mp h
  have hzero : 0x30 ∈ zeros := List.mem_cons_self
  exact isDigit_iff.mpr ⟨0x30, hzero, hlow, Nat.lt_succ_of_le hhigh⟩

theorem zeros_apart_from_letters : ∀ first ∈ zeros,
    first + 10 ≤ 0x41 ∨ 0x17F < first ∧ (first + 10 ≤ 0x212A ∨ 0x212A < first) := by
  decide

theorem not_isLetter_of_isDigit (h : isDigit c = true) : Alias.isLetter c = false := by
  obtain ⟨first, hfirst, hlow, hhigh⟩ := isDigit_iff.mp h
  have hgap := zeros_apart_from_letters first hfirst
  have hne (d : Char) (hd : c.toNat ≠ d.toNat) : (c == d) = false :=
    beq_false_of_ne fun he => hd (congrArg Char.toNat he)
  have hout (d e : Char) (hde : d.toNat ≤ c.toNat → e.toNat < c.toNat) :
      (decide (d ≤ c) && decide (c ≤ e)) = false := by
    simp only [Bool.and_eq_false_iff, decide_eq_false_iff_not]
    change ¬ d.toNat ≤ c.toNat ∨ ¬ c.toNat ≤ e.toNat
    omega
  have hlower : 'a'.toNat = 0x61 ∧ 'z'.toNat = 0x7A := by decide
  have hupper : 'A'.toNat = 0x41 ∧ 'Z'.toNat = 0x5A := by decide
  have hothers : '\u0130'.toNat = 0x130 ∧ '\u0131'.toNat = 0x131 ∧ '\u017F'.toNat = 0x17F ∧
      '\u212A'.toNat = 0x212A := by decide
  rw [Alias.isLetter, hout 'a' 'z' (by omega), hout 'A' 'Z' (by omega), hne '\u0130' (by omega),
    hne '\u0131' (by omega), hne '\u017F' (by omega), hne '\u212A' (by omega)]
  rfl

theorem isNumeral_iff : isNumeral t = true ↔ t ≠ [] ∧ ∀ c ∈ t, isDigit c = true := by
  simp [isNumeral, List.isEmpty_eq_false_iff]

theorem not_mem_of_isNumeral (ht : isNumeral t = true) (hc : isDigit c = false) : c ∉ t := by
  intro hmem
  have hdigit := (isNumeral_iff.mp ht).2 c hmem
  rw [hc] at hdigit
  exact Bool.false_ne_true hdigit

theorem isNumeral_ofNat (n : Nat) : isNumeral (ofNat n) = true :=
  isNumeral_iff.mpr ⟨Nat.toDigits_ne_nil, fun _ hc =>
    isDigit_of_char_isDigit (isDigit_of_mem_ofNat hc)⟩

theorem isNumeral_ofInt {n : Int} (hn : 0 ≤ n) : isNumeral (ofInt n) = true := by
  obtain ⟨k, rfl⟩ := Int.eq_ofNat_of_zero_le hn
  exact isNumeral_ofNat k

theorem value_ofInt {n : Int} (hn : 0 ≤ n) : (value (ofInt n) : Int) = n := by
  obtain ⟨k, rfl⟩ := Int.eq_ofNat_of_zero_le hn
  exact congrArg Nat.cast (value_ofNat k)

theorem isWritable_iff {n : Int} : isWritable n = true ↔ n.natAbs < 10 ^ digitLimit := by
  rw [isWritable, decide_eq_true_iff]
  exact Nat.length_toDigits_le_iff (by decide) (by decide)

theorem length_ofInt_le {n : Int} {limit : Nat} (hlimit : 0 < limit) (hn : 0 ≤ n)
    (h : n < 10 ^ limit) : (ofInt n).length ≤ limit := by
  obtain ⟨k, rfl⟩ := Int.eq_ofNat_of_zero_le hn
  have hk : k < 10 ^ limit := by
    apply Int.ofNat_lt.mp
    rw [Int.natCast_pow]
    exact h
  exact (Nat.length_toDigits_le_iff (by decide) hlimit).mpr hk

theorem value_le_value_append (front back : Text) : value front ≤ value (front ++ back) := by
  induction back using List.reverseRecOn with
  | nil => exact Nat.le_of_eq (by rw [List.append_nil])
  | append_singleton back c ih =>
    rw [← List.append_assoc, value_concat]
    omega

/-- Every further digit makes a number at least ten times as great. -/
theorem ten_mul_value_le (front : Text) {back : Text} (hback : back ≠ []) :
    10 * value front ≤ value (front ++ back) := by
  obtain ⟨most, last, rfl⟩ := (List.eq_nil_or_concat back).resolve_left hback
  have hmost := value_le_value_append front most
  rw [List.concat_eq_append, ← List.append_assoc, value_concat]
  omega

structure Numeral where
  text : Text
  digits : isNumeral text = true
  short : text.length ≤ digitLimit

namespace Numeral

def value (n : Numeral) : Nat :=
  Text.value n.text

theorem exists_ofInt {n : Int} (hn : 0 ≤ n) (hlimit : n < 10 ^ digitLimit) :
    ∃ a : Numeral, a.text = Text.ofInt n ∧ (a.value : Int) = n := by
  have hshort := length_ofInt_le (by decide) hn hlimit
  exact ⟨⟨Text.ofInt n, isNumeral_ofInt hn, hshort⟩, rfl, value_ofInt hn⟩

/-- The step of an item that gives none. -/
def one : Numeral := ⟨['1'], rfl, by decide⟩

theorem ne_nil (n : Numeral) : n.text ≠ [] :=
  (isNumeral_iff.mp n.digits).1

theorem not_mem (n : Numeral) (hc : isDigit c = false) : c ∉ n.text :=
  not_mem_of_isNumeral n.digits hc

theorem isColumnCharacter_of_mem (n : Numeral) (hc : c ∈ n.text) : isColumnCharacter c = true := by
  have hdigit := (isNumeral_iff.mp n.digits).2 c hc
  rw [isColumnCharacter, hdigit]
  rfl

theorem readNumber_text (n : Numeral) : readNumber n.text = .ok n.value :=
  if_neg (Nat.not_lt_of_le n.short)

end Numeral
end Text

theorem not_isLetter_of_isColumnCharacter {c : Char} (h : isColumnCharacter c = true) :
    Alias.isLetter c = false := by
  simp only [isColumnCharacter, Bool.or_eq_true, beq_iff_eq] at h
  rcases h with ((((h | rfl) | rfl) | rfl) | rfl) | rfl
  · exact Text.not_isLetter_of_isDigit h
  all_goals rfl

end Crontab
