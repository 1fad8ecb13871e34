import Mathlib.Data.List.Sort
import Crontab.Proofs.Field.Resolving

/-! # What a step takes

The counter starts again at one after every index taken, so it stays congruent to
the place of the next index in the range. An index is therefore taken exactly
when the step divides its place, counted from one, and the indices taken can be
written down without a walk.
-/
namespace Crontab.Stride
variable {step start stop : Int}

/-- The second hypothesis is the invariant of the walk. -/
theorem walk_range' (hstep : step ≠ 0) (start : Int) (length : Nat) {place : Nat} {counter : Int}
    (h : step ∣ place + 1 - counter) :
    walk step counter ((List.range' place length).map fun k : Nat => start + k) =
      .ok (((List.range' place length).map fun k : Nat => start + k).filter
        fun i => step ∣ i - start + 1) := by
  induction length generalizing place counter with
  | zero => rfl
  | succ length ih =>
    have hplace : start + place - start + 1 = (place : Int) + 1 := by omega
    have htaken : step ∣ start + place - start + 1 ↔ step ∣ counter := by
      rw [hplace]
      exact Int.dvd_iff_dvd_of_dvd_sub h
    rw [List.range'_succ, List.map_cons]
    by_cases hc : step ∣ counter
    · have hnext : step ∣ ((place + 1 : Nat) : Int) + 1 - 1 := by
        have hone : ((place + 1 : Nat) : Int) + 1 - 1 = place + 1 := by omega
        rw [hone, ← hplace]
        exact htaken.mpr hc
      rw [walk_taken hstep (Int.emod_eq_zero_of_dvd hc), ih hnext,
        List.filter_cons_of_pos (by simpa using htaken.mpr hc)]
      rfl
    · have hnext : step ∣ ((place + 1 : Nat) : Int) + 1 - (counter + 1) := by
        have hsame : ((place + 1 : Nat) : Int) + 1 - (counter + 1) = place + 1 - counter := by omega
        rw [hsame]
        exact h
      have hmod : counter % step ≠ 0 := fun hmod => hc (Int.dvd_of_emod_eq_zero hmod)
      rw [walk_passed hstep hmod, ih hnext,
        List.filter_cons_of_neg (by simpa using fun hp => hc (htaken.mp hp))]

theorem range_eq_ok (start stop : Int) (hstep : step ≠ 0) :
    range start stop step = .ok ((indices start stop).filter fun i => step ∣ i - start + 1) := by
  have hfirst : step ∣ ((0 : Nat) : Int) + 1 - 1 := ⟨0, by omega⟩
  rw [range, indices, List.range_eq_range']
  exact walk_range' hstep start _ hfirst

/-- The first index divides by zero. Only an empty range has none. -/
theorem range_zero (start stop : Int) :
    range start stop 0 = if start ≤ stop then .error .zeroStep else .ok [] := by
  by_cases h : start ≤ stop
  · obtain ⟨length, hlength⟩ : ∃ length, (stop - start + 1).toNat = length + 1 :=
      ⟨(stop - start).toNat, by omega⟩
    rw [if_pos h, range, indices, hlength, List.range_succ_eq_map, List.map_cons, walk_zero]
  · have hlength : (stop - start + 1).toNat = 0 := by omega
    rw [if_neg h, range, indices, hlength]
    rfl

/-- The indices whose places, counted from one, are multiples of the step. Its sign does not
matter. -/
def multiples (start stop step : Int) : List Int :=
  (List.range' 1 ((stop - start + 1) / step.natAbs).toNat).map fun k : Nat =>
    start + k * step.natAbs - 1

theorem multiples_zero (start stop : Int) : multiples start stop 0 = [] := by
  simp [multiples]

theorem pairwise_multiples (start stop step : Int) :
    (multiples start stop step).Pairwise (· < ·) := by
  by_cases hstep : step = 0
  · rw [hstep, multiples_zero]
    exact List.Pairwise.nil
  · have hwidth : 0 < (step.natAbs : Int) := by omega
    refine List.pairwise_map.mpr ((List.pairwise_lt_range' 1).imp fun {a b} hab => ?_)
    have hmul : (a : Int) * step.natAbs < b * step.natAbs :=
      Int.mul_lt_mul_of_pos_right (by omega) hwidth
    omega

theorem mem_multiples {i : Int} : i ∈ multiples start stop step ↔
    start ≤ i ∧ i ≤ stop ∧ (step.natAbs : Int) ∣ i - start + 1 := by
  by_cases hstep : step = 0
  · have hzero : (step.natAbs : Int) = 0 := by omega
    rw [hstep, multiples_zero, ← hstep, hzero, Int.zero_dvd]
    simp only [List.not_mem_nil, false_iff]
    omega
  have hwidth : 0 < (step.natAbs : Int) := by omega
  simp only [multiples, List.mem_map, List.mem_range'_1]
  constructor
  · rintro ⟨k, ⟨hfirst, hlast⟩, rfl⟩
    have hplace : start + k * step.natAbs - 1 - start + 1 = (k : Int) * step.natAbs := by omega
    have hlow : 1 * (step.natAbs : Int) ≤ k * step.natAbs :=
      Int.mul_le_mul_of_nonneg_right (by omega) (by omega)
    have hhigh : (k : Int) * step.natAbs ≤ stop - start + 1 :=
      Int.mul_le_of_le_ediv hwidth (by omega)
    rw [hplace]
    exact ⟨by omega, by omega, Int.dvd_mul_left _ _⟩
  · rintro ⟨hstart, hstop, k, hk⟩
    have hpos : 0 < k := by
      by_contra hnot
      have := Int.mul_nonpos_of_nonneg_of_nonpos (Int.le_of_lt hwidth) (Int.not_lt.mp hnot)
      omega
    have hlast : k ≤ (stop - start + 1) / step.natAbs := by
      rw [Int.le_ediv_iff_mul_le hwidth, Int.mul_comm]
      omega
    refine ⟨k.toNat, by omega, ?_⟩
    rw [Int.toNat_of_nonneg (Int.le_of_lt hpos), Int.mul_comm, ← hk]
    omega

theorem multiples_eq_nil_iff :
    multiples start stop step = [] ↔ step = 0 ∨ stop - start + 1 < step.natAbs := by
  by_cases hstep : step = 0
  · exact iff_of_true (hstep ▸ multiples_zero start stop) (.inl hstep)
  · have hwidth : 0 < (step.natAbs : Int) := by omega
    rw [multiples, List.map_eq_nil_iff, List.range'_eq_nil_iff, Int.toNat_eq_zero,
      or_iff_right hstep, ← Int.lt_add_one_iff, Int.ediv_lt_iff_lt_mul hwidth, Int.zero_add,
      Int.one_mul]

theorem filter_indices (start stop step : Int) :
    ((indices start stop).filter fun i => step ∣ i - start + 1) = multiples start stop step := by
  refine ((pairwise_indices start stop).filter _).eq_of_mem_iff (pairwise_multiples _ _ _) fun i => ?_
  rw [List.mem_filter, mem_indices, mem_multiples, decide_eq_true_iff, Int.natAbs_dvd, and_assoc]

/-- A walk takes the multiples of its step, and it fails only with a step of zero in a range that is
not empty. -/
theorem range_eq_multiples (start stop step : Int) :
    range start stop step =
        (if step = 0 ∧ start ≤ stop then .error .zeroStep else .ok (multiples start stop step)) ∧
      (multiples start stop step).Pairwise (· < ·) ∧
      (∀ i, i ∈ multiples start stop step ↔
        start ≤ i ∧ i ≤ stop ∧ (step.natAbs : Int) ∣ i - start + 1) ∧
      (multiples start stop step = [] ↔ step = 0 ∨ stop - start + 1 < step.natAbs) := by
  have hrange : range start stop step =
      if step = 0 ∧ start ≤ stop then .error .zeroStep else .ok (multiples start stop step) := by
    by_cases hstep : step = 0
    · rw [hstep, range_zero, multiples_zero]
      simp only [true_and]
    · rw [if_neg (fun h => hstep h.1), range_eq_ok start stop hstep, filter_indices]
  exact ⟨hrange, pairwise_multiples start stop step, fun i => mem_multiples, multiples_eq_nil_iff⟩

example : range 0 9 (-3) = .ok [2, 5, 8] := by rfl

end Crontab.Stride
