import Crontab.Fault
import Crontab.Field.Column

/-! # Numbers in columns

Numbers are read from a text and written into it unless they have more digits than
the limit. A column writes its bounds where a star stands.
-/
namespace Crontab

/-- The number that a run of digits forms, if the run is not too long. -/
def readNumber (digits : Text) : Except Fault Nat :=
  if Text.digitLimit < digits.length then throw (.digitLimit digits.length)
  else return Text.value digits

/-- The digits of a number, if they are not too many. -/
def writeNumber (n : Int) : Except Fault Text :=
  if Text.isWritable n then return Text.ofInt n else throw .unwritableNumber

/-- The bounds written as a range. -/
def Bounds.span (b : Bounds) : Except Fault Text := do
  let min ← writeNumber b.min
  let max ← writeNumber b.max
  return min ++ '-' :: max

theorem writeNumber_eq (n : Int) :
    writeNumber n = .ok (Text.ofInt n) ∨ writeNumber n = .error .unwritableNumber := by
  unfold writeNumber
  split
  · exact .inl rfl
  · exact .inr rfl

theorem Bounds.span_eq (b : Bounds) : b.span = .ok b.text ∨ b.span = .error .unwritableNumber := by
  rcases writeNumber_eq b.min with hmin | hmin
  · rcases writeNumber_eq b.max with hmax | hmax
    · exact .inl (by rw [span, hmin, hmax]; rfl)
    · exact .inr (by rw [span, hmin, hmax]; rfl)
  · exact .inr (by rw [span, hmin]; rfl)

theorem Field.span_bounds (f : Field) : f.bounds.span = .ok f.bounds.text := by
  cases f <;> rfl

end Crontab
