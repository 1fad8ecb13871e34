import Mathlib.Data.List.Nodup
import Crontab.Field.Compile
import Crontab.Proofs.Outcome

/-! # The order in which atoms are merged

Atoms are sorted by the number that all their digits form together, so a range
stands where the number made of both its ends belongs.
-/
namespace Crontab
variable {atom : Text} {atoms sorted : List Text}

/-- The digits of an atom, of both ends and the step alike. -/
def digitsOf (atom : Text) : Text :=
  atom.filter Text.isDigit

def digitNumber (atom : Text) : Int :=
  if (digitsOf atom).isEmpty then -1 else Text.value (digitsOf atom)

theorem readNumber_eq_ok_iff {digits : Text} {n : Nat} :
    readNumber digits = .ok n ↔ digits.length ≤ Text.digitLimit ∧ n = Text.value digits := by
  unfold readNumber
  split
  · next h => exact ⟨nofun, fun hn => absurd hn.1 (Nat.not_le_of_lt h)⟩
  · next h =>
    constructor
    · intro hn
      cases hn
      exact ⟨Nat.le_of_not_lt h, rfl⟩
    · rintro ⟨-, rfl⟩
      rfl

theorem sortNumber_eq_ok_iff {n : Int} :
    sortNumber atom = .ok n ↔ (digitsOf atom).length ≤ Text.digitLimit ∧ n = digitNumber atom := by
  unfold sortNumber digitNumber
  change (if (digitsOf atom).isEmpty = true then _ else _) = _ ↔ _
  by_cases h : (digitsOf atom).isEmpty = true
  · rw [if_pos h, if_pos h, List.isEmpty_iff.mp h]
    exact ⟨fun hn => by cases hn; exact ⟨Nat.zero_le _, rfl⟩, fun hn => by rw [hn.2]; rfl⟩
  · simp only [if_neg h, bind_eq_ok_iff, readNumber_eq_ok_iff]
    constructor
    · rintro ⟨_, ⟨hlimit, rfl⟩, hn⟩
      cases hn
      exact ⟨hlimit, rfl⟩
    · rintro ⟨hlimit, rfl⟩
      exact ⟨_, ⟨hlimit, rfl⟩, rfl⟩

section Sorted
variable {α : Type} (number : α → Int)

theorem number_trans (a b c : α) : decide (number a ≤ number b) → decide (number b ≤ number c) →
    decide (number a ≤ number c) := by
  intro hab hbc
  exact decide_eq_true (Int.le_trans (of_decide_eq_true hab) (of_decide_eq_true hbc))

theorem number_total (a b : α) : decide (number a ≤ number b) || decide (number b ≤ number a) := by
  simpa using Int.le_total (number a) (number b)

theorem pairwise_mergeSort_number (entries : List α) :
    (entries.mergeSort fun a b => number a ≤ number b).Pairwise fun a b => number a ≤ number b :=
  (List.pairwise_mergeSort (number_trans number) (number_total number) entries).imp of_decide_eq_true

/-- Entries with one number stay in their order. -/
theorem filter_mergeSort_number (entries : List α) (n : Int) :
    (entries.mergeSort fun a b => number a ≤ number b).filter (fun a => number a = n) =
      entries.filter fun a => number a = n := by
  have hties : (entries.filter fun a => number a = n).Pairwise
      fun a b => decide (number a ≤ number b) = true := by
    refine List.pairwise_of_forall_mem_list fun a ha b hb => decide_eq_true ?_
    have ha : number a = n := of_decide_eq_true (List.mem_filter.mp ha).2
    have hb : number b = n := of_decide_eq_true (List.mem_filter.mp hb).2
    exact Int.le_of_eq (ha.trans hb.symm)
  have hkept := List.sublist_mergeSort (number_trans number) (number_total number) hties
    List.filter_sublist
  have hsublist := hkept.filter fun a => number a = n
  rw [List.filter_filter] at hsublist
  simp only [Bool.and_self] at hsublist
  have hperm := (List.mergeSort_perm entries fun a b => number a ≤ number b).filter
    fun a => number a = n
  exact (hsublist.eq_of_length hperm.length_eq.symm).symm

end Sorted

/-- Atoms in the order of their digits. Equal numbers keep their order. -/
def digitOrder (atoms : List Text) : List Text :=
  atoms.mergeSort fun a b => digitNumber a ≤ digitNumber b

theorem digitOrder_singleton (atom : Text) : digitOrder [atom] = [atom] :=
  List.mergeSort_singleton atom

theorem mem_digitOrder : atom ∈ digitOrder atoms ↔ atom ∈ atoms :=
  List.mem_mergeSort

theorem digitOrder_of_pairwise (h : atoms.Pairwise fun a b => digitNumber a ≤ digitNumber b) :
    digitOrder atoms = atoms :=
  List.mergeSort_of_pairwise (h.imp fun hab => decide_eq_true hab)

/-- Atoms with different numbers have only one order. -/
theorem digitOrder_of_perm (hperm : sorted.Perm atoms)
    (hsorted : sorted.Pairwise fun a b => digitNumber a < digitNumber b) :
    digitOrder atoms = sorted := by
  have hdistinct : (sorted.map digitNumber).Nodup :=
    List.pairwise_map.mpr (hsorted.imp Int.ne_of_lt)
  have hordered : (digitOrder atoms).Pairwise fun a b => digitNumber a ≤ digitNumber b :=
    pairwise_mergeSort_number digitNumber atoms
  have hsame : (digitOrder atoms).Perm sorted := (List.mergeSort_perm _ _).trans hperm.symm
  refine List.Perm.eq_of_pairwise (fun a b ha hb hab hba => ?_) hordered
    (hsorted.imp Int.le_of_lt) hsame
  exact List.inj_on_of_nodup_map hdistinct (hsame.subset ha) hb (Int.le_antisymm hab hba)

theorem sortAtoms_eq_ok_iff : sortAtoms atoms = .ok sorted ↔
    (∀ a ∈ atoms, (digitsOf a).length ≤ Text.digitLimit) ∧ sorted = digitOrder atoms := by
  have hsorted : (((atoms.map digitNumber).zip atoms).mergeSort fun a b => a.1 ≤ b.1).map (·.2) =
      digitOrder atoms := by
    have hnumber : ∀ a ∈ (atoms.map digitNumber).zip atoms, a.1 = digitNumber a.2 := by
      rw [← List.map_prod_right_eq_zip]
      simp
    have hatoms : ((atoms.map digitNumber).zip atoms).map (·.2) = atoms :=
      List.map_snd_zip (by simp)
    have hsort := List.map_mergeSort (s := fun a b : Text => digitNumber a ≤ digitNumber b)
      fun a ha b hb => by rw [← hnumber a ha, ← hnumber b hb]
    rw [hsort, hatoms, digitOrder]
  simp only [sortAtoms, bind_eq_ok_iff, mapM_eq_ok_iff fun a n => sortNumber_eq_ok_iff]
  constructor
  · rintro ⟨_, ⟨hlimit, rfl⟩, h⟩
    cases h
    exact ⟨hlimit, hsorted⟩
  · rintro ⟨hlimit, rfl⟩
    exact ⟨_, ⟨hlimit, rfl⟩, congrArg Except.ok hsorted⟩

/-- A text of one atom is not sorted, so its digits are not counted. -/
theorem Column.atoms_eq_ok_iff {column : Column} {text : Text} (hne : atoms ≠ [])
    (hatoms : Text.pieces ',' (writeStars column.bounds.text text) = atoms) :
    column.atoms text = .ok sorted ↔ column.bounds.span = .ok column.bounds.text ∧
      (1 < atoms.length → ∀ a ∈ atoms, (digitsOf a).length ≤ Text.digitLimit) ∧
        sorted = digitOrder atoms := by
  simp only [Column.atoms, bind_eq_ok_iff, expandWildcard_eq_ok_iff, and_assoc, exists_and_left,
    exists_eq_left, hatoms]
  refine and_congr_right fun _ => ?_
  by_cases h : 1 < atoms.length
  · rw [if_pos h, sortAtoms_eq_ok_iff]
    exact and_congr_left fun _ => ⟨fun hlimit _ => hlimit, fun hlimit => hlimit h⟩
  · have hlength : atoms.length = 1 := by
      have := List.length_pos_iff.mpr hne
      omega
    obtain ⟨atom, rfl⟩ := List.length_eq_one_iff.mp hlength
    rw [if_neg h, digitOrder_singleton]
    exact ⟨fun hsorted => by cases hsorted; exact ⟨fun hmany => absurd hmany h, rfl⟩,
      fun hsorted => by rw [hsorted.2]; rfl⟩

end Crontab
