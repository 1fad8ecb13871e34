import Crontab.Fault

/-! # Steps through a range

A counter starts at one and is compared with the step at every index. When it
reaches a multiple of the step, the index is taken and the counter starts again.
-/
namespace Crontab.Stride

/-- The indices taken from a list, given the counter at its first one. Every index divides the
counter by the step, so the first one fails if the step is zero. -/
def walk (step : Int) (counter : Int) : List Int → Except Fault (List Int)
  | [] => return []
  | index :: rest => do
    if step = 0 then throw .zeroStep
    if counter % step = 0 then return index :: (← walk step 1 rest)
    else walk step (counter + 1) rest

def indices (start stop : Int) : List Int :=
  (List.range (stop - start + 1).toNat).map fun (k : Nat) => start + k

/-- The indices of a range that a step takes. -/
def range (start stop step : Int) : Except Fault (List Int) :=
  walk step 1 (indices start stop)

section Laws
variable {step counter index : Int} {rest : List Int}

theorem walk_zero : walk 0 counter (index :: rest) = .error .zeroStep := by
  rfl

theorem walk_taken (hstep : step ≠ 0) (h : counter % step = 0) :
    walk step counter (index :: rest) = (index :: ·) <$> walk step 1 rest := by
  rw [walk, if_neg hstep, if_pos h]
  rfl

theorem walk_passed (hstep : step ≠ 0) (h : counter % step ≠ 0) :
    walk step counter (index :: rest) = walk step (counter + 1) rest := by
  rw [walk, if_neg hstep, if_neg h]

end Laws

end Crontab.Stride
