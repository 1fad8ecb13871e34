import Crontab.Field.Compile
import Crontab.Proofs.Outcome

/-! # What an atom resolves to

An atom gives its values in ascending order, or fails with a fault of its text or
with a run of digits beyond the limit. The step is checked to be positive before
the counter walk starts, so the walk never divides by zero.
-/
namespace Crontab
variable {longest : Nat}

theorem readNumber_outcome {digits : Text} (h : digits.length ≤ longest) :
    Outcome (Fault.IsTextual longest) (· = Text.value digits) (readNumber digits) := by
  unfold readNumber
  split
  · next hlong => exact ⟨hlong, h⟩
  · rfl

namespace Stride

/-- A walk over a list fails only at a division by zero. -/
theorem walk_outcome {failure : Fault → Prop} {step : Int} (hstep : step ≠ 0) (counter : Int)
    (indices : List Int) : Outcome failure (List.Sublist · indices) (walk step counter indices) := by
  induction indices generalizing counter with
  | nil => exact List.Sublist.refl []
  | cons index rest ih =>
    by_cases h : counter % step = 0
    · rw [walk_taken hstep h]
      exact (ih 1).map fun taken htaken => htaken.cons_cons index
    · rw [walk_passed hstep h]
      exact (ih (counter + 1)).imp (fun _ => id) fun taken htaken => htaken.cons index

theorem pairwise_indices (start stop : Int) : (indices start stop).Pairwise (· < ·) := by
  refine List.pairwise_map.mpr (List.pairwise_lt_range.imp fun {a b} hab => ?_)
  omega

theorem mem_indices {start stop v : Int} : v ∈ indices start stop ↔ start ≤ v ∧ v ≤ stop := by
  simp only [indices, List.mem_map, List.mem_range]
  constructor
  · rintro ⟨k, hk, rfl⟩
    omega
  · rintro ⟨hstart, hstop⟩
    exact ⟨(v - start).toNat, by omega, by omega⟩

theorem range_outcome {failure : Fault → Prop} (start stop : Int) {step : Int} (hstep : 0 < step) :
    Outcome failure (List.Pairwise (· < ·)) (range start stop step) := by
  exact (walk_outcome (Int.ne_of_gt hstep) 1 _).imp (fun _ => id) fun taken htaken =>
    (pairwise_indices start stop).sublist htaken

end Stride

namespace Resolved

def Ascends (resolved : Resolved) : Prop :=
  resolved.written.Pairwise (· < ·)

variable {column : Column} {resolved : Resolved}

theorem Ascends.pairwise_values (h : resolved.Ascends) :
    (resolved.values column).Pairwise (· < ·) := by
  cases resolved with
  | single value => exact List.pairwise_singleton _ _
  | run values => exact h

/-- Folding a day of the week does not lead below zero. -/
theorem nonneg_of_mem_values (hmin : 0 ≤ column.bounds.min)
    (hwithin : ∀ v ∈ resolved.written, column.bounds.Contains v) {v : Int}
    (hv : v ∈ resolved.values column) : 0 ≤ v := by
  have hwritten : ∀ w ∈ resolved.written, 0 ≤ w :=
    fun w hw => Int.le_trans hmin (hwithin w hw).1
  cases resolved with
  | run values => exact hwritten v hv
  | single value =>
    have hvalue : 0 ≤ value := hwritten value (List.mem_singleton.mpr rfl)
    rw [values, List.mem_singleton] at hv
    split at hv <;> omega

end Resolved

namespace Column
variable {column : Column} {text low high stepText atom : Text}

theorem scalar_outcome (h : text.length ≤ longest) :
    Outcome (Fault.IsTextual longest) (fun _ => True) (column.scalar text) := by
  unfold scalar
  split
  next negative digits heq =>
  have hdigits : digits.length ≤ longest := by
    split at heq <;> cases heq
    · exact Nat.le_of_succ_le h
    · exact h
  split
  · exact (readNumber_outcome hdigits).bind fun _ _ => trivial
  · trivial

theorem step_outcome (h : text.length ≤ longest) :
    Outcome (Fault.IsTextual longest) (0 < ·) (column.step text) := by
  unfold step
  split
  · refine (readNumber_outcome h).bind fun n _ => ?_
    split
    · trivial
    · next hn => exact Nat.pos_of_ne_zero hn
  · trivial

theorem resolveEnds_outcome (hlow : low.length ≤ longest) (hhigh : high.length ≤ longest)
    (hstep : stepText.length ≤ longest) :
    Outcome (Fault.IsTextual longest) (List.Pairwise (· < ·))
      (column.resolveEnds text low high stepText) := by
  simp only [resolveEnds]
  split
  · trivial
  refine (readNumber_outcome hlow).bind fun start _ => ?_
  refine (readNumber_outcome hhigh).bind fun stop _ => ?_
  split
  · trivial
  split
  · trivial
  exact (step_outcome hstep).bind fun n hn =>
    Stride.range_outcome start stop (Int.natCast_pos.mpr hn)

theorem resolveRange_outcome (htext : text.length ≤ longest) (hstep : stepText.length ≤ longest) :
    Outcome (Fault.IsTextual longest) Resolved.Ascends (column.resolveRange text stepText) := by
  have hsingle : Outcome (Fault.IsTextual longest) Resolved.Ascends
      (Resolved.single <$> column.scalar text) :=
    (scalar_outcome htext).map fun v _ => List.pairwise_singleton _ v
  unfold resolveRange
  split
  · exact hsingle
  next low rest hcut =>
  split
  · exact hsingle
  · obtain ⟨rfl, -⟩ := Text.cut?_eq_some hcut
    rw [List.length_append, List.length_cons] at htext
    have hhigh := (List.takeWhile_sublist (l := rest) (· ≠ '-')).length_le
    exact (resolveEnds_outcome (by omega) (by omega) hstep).map fun values hvalues => hvalues

theorem length_steppedBase_le (column : Column) (base : Text) :
    (column.steppedBase base).length ≤ base.length + column.bounds.text.length := by
  unfold steppedBase
  split
  · simp only [List.length_append, List.length_cons, Bounds.text]
    omega
  · omega

theorem resolve_outcome (h : atom.length + column.bounds.text.length ≤ longest) :
    Outcome (Fault.IsTextual longest) Resolved.Ascends (column.resolve atom) := by
  have hspan : 0 < column.bounds.text.length := by
    simp only [Bounds.text, List.length_append, List.length_cons]
    omega
  unfold resolve
  split
  · refine resolveRange_outcome (by omega) ?_
    simp only [List.length_singleton]
    omega
  next base rest hcut =>
  obtain ⟨rfl, -⟩ := Text.cut?_eq_some hcut
  rw [List.length_append, List.length_cons] at h
  have hbase := column.length_steppedBase_le base
  refine resolveRange_outcome (by omega) ?_
  rw [List.getLastD_eq_getLast?]
  cases hlast : (Text.pieces '/' rest).getLast? with
  | none => exact Nat.zero_le _
  | some piece =>
    have hpiece := (Text.sublist_of_mem_pieces (List.mem_of_getLast? hlast)).length_le
    simp only [Option.getD_some]
    omega

end Column
end Crontab
