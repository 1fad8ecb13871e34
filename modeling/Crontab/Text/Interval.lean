/-! # Intervals of code points

A character class given by ascending, disjoint intervals of code points.
-/
namespace Crontab.Text

/-- Ascending intervals, both ends included. -/
abbrev Intervals := List (Nat × Nat)

/-- Membership. The search ends at the first interval that starts above the code point. -/
def Intervals.contains : Intervals → Nat → Bool
  | [], _ => false
  | (low, high) :: rest, n => low ≤ n && (n ≤ high || Intervals.contains rest n)

end Crontab.Text
