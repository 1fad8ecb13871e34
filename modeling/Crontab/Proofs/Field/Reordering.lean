import Crontab.Proofs.Field.Acceptance
import Crontab.Proofs.Field.Meaning

/-! # Lists in another order

Sorting by a number keeps the entries with one number in the order in which they
stood. So it does not tell apart two lists of the same entries that agree on the
order of those, and nothing after the sorting looks at the list as it was written.
-/
namespace Crontab

section Ties
variable {α : Type} {number : α → Int} {entries others : List α}

/-- The same entries, and those with one number stand in the same order. -/
def SameTies (number : α → Int) (entries others : List α) : Prop :=
  entries.Perm others ∧ ∀ a ∈ entries,
    entries.filter (fun b => number b = number a) = others.filter fun b => number b = number a

instance [DecidableEq α] : Decidable (SameTies number entries others) :=
  inferInstanceAs (Decidable (_ ∧ _))

theorem SameTies.filter_eq (h : SameTies number entries others) (n : Int) :
    entries.filter (fun a => number a = n) = others.filter fun a => number a = n := by
  by_cases hn : ∃ a ∈ entries, number a = n
  · obtain ⟨a, ha, rfl⟩ := hn
    exact h.2 a ha
  · have hnone : entries.filter (fun a => number a = n) = [] := by
      simpa using hn
    have hperm := h.1.filter fun a => number a = n
    rw [hnone] at hperm ⊢
    exact hperm.nil_eq

theorem mem_of_filter_eq
    (h : ∀ n, entries.filter (fun a => number a = n) = others.filter fun a => number a = n) {a : α}
    (ha : a ∈ entries) : a ∈ others := by
  have hin : a ∈ entries.filter fun b => number b = number a :=
    List.mem_filter.mpr ⟨ha, decide_eq_true rfl⟩
  rw [h] at hin
  exact (List.mem_filter.mp hin).1

theorem number_head_le {first a : α} {rest : List α}
    (h : (first :: rest).Pairwise fun a b => number a ≤ number b) (ha : a ∈ first :: rest) :
    number first ≤ number a := by
  rcases List.mem_cons.mp ha with rfl | ha
  · exact Int.le_refl _
  · exact (List.pairwise_cons.mp h).1 a ha

/-- Two sorted lists that agree on the entries with each number are the same. -/
theorem eq_of_filter_eq (hentries : entries.Pairwise fun a b => number a ≤ number b)
    (hothers : others.Pairwise fun a b => number a ≤ number b)
    (h : ∀ n, entries.filter (fun a => number a = n) = others.filter fun a => number a = n) :
    entries = others := by
  induction entries generalizing others with
  | nil =>
    have hnone (a : α) : a ∉ others := fun ha => by cases mem_of_filter_eq (fun n => (h n).symm) ha
    exact (List.eq_nil_iff_forall_not_mem.mpr hnone).symm
  | cons first rest ih =>
    cases others with
    | nil => cases mem_of_filter_eq h List.mem_cons_self
    | cons other more =>
      -- Both heads have the least number, so they lead the entries with that number.
      have hle := number_head_le hentries (mem_of_filter_eq (fun n => (h n).symm) List.mem_cons_self)
      have hge := number_head_le hothers (mem_of_filter_eq h List.mem_cons_self)
      have hnumber : number other = number first := Int.le_antisymm hge hle
      have hleading := h (number first)
      simp only [List.filter_cons, hnumber, decide_true, if_true, List.cons.injEq] at hleading
      obtain ⟨rfl, htail⟩ := hleading
      have hrest (n : Int) :
          rest.filter (fun a => number a = n) = more.filter fun a => number a = n := by
        by_cases hn : number first = n
        · exact hn ▸ htail
        · simpa [List.filter_cons, hn] using h n
      exact congrArg (first :: ·) (ih hentries.tail hothers.tail hrest)

theorem SameTies.mergeSort_eq (h : SameTies number entries others) :
    entries.mergeSort (fun a b => number a ≤ number b) =
      others.mergeSort fun a b => number a ≤ number b := by
  refine eq_of_filter_eq (pairwise_mergeSort_number number entries)
    (pairwise_mergeSort_number number others) fun n => ?_
  rw [filter_mergeSort_number, filter_mergeSort_number, h.filter_eq]

end Ties

namespace Column
variable {column : Column} {atoms others : List Text}

/-- The number by which an atom is sorted, its stars written out. -/
def sortKey (column : Column) (atom : Text) : Int :=
  digitNumber (writeStars column.bounds.text atom)

/-- The atom is the first one that fails when the atoms are taken in the order of their digits. -/
def FailsFirst (column : Column) (atoms : List Text) (atom : Text) (fault : Fault) : Prop :=
  FirstFault (fun a => expandWildcard column.bounds a >>= column.add [])
    (atoms.mergeSort fun a b => column.sortKey a ≤ column.sortKey b) atom fault

theorem digitOrder_map_writeStars (column : Column) (atoms : List Text) :
    digitOrder (atoms.map (writeStars column.bounds.text)) =
      (atoms.mergeSort fun a b => column.sortKey a ≤ column.sortKey b).map
        (writeStars column.bounds.text) :=
  (List.map_mergeSort (f := writeStars column.bounds.text) fun _ _ _ _ => rfl).symm

theorem expandWildcard_eq_pure (hspan : column.bounds.span = .ok column.bounds.text) :
    expandWildcard column.bounds = fun a => pure (writeStars column.bounds.text a) :=
  funext fun _ => expandWildcard_eq_ok_iff.mpr ⟨hspan, rfl⟩

/-- Once a list of atoms is sorted, it does not matter how it was written. -/
theorem compile_joined_eq_collect_sorted (hne : Text.joined ',' atoms ≠ [])
    (hsingle : ∀ a ∈ atoms, ',' ∉ a) (hfine : ∀ a ∈ atoms, ∀ c ∈ a, isColumnCharacter c)
    (hshort : ∀ a ∈ atoms, ∀ expanded, expandWildcard column.bounds a = .ok expanded →
      (digitsOf expanded).length ≤ Text.digitLimit) :
    column.compile (Text.joined ',' atoms) =
      (atoms.mergeSort fun a b => column.sortKey a ≤ column.sortKey b).mapM
        (expandWildcard column.bounds) >>= column.collect [] := by
  have hatoms : atoms ≠ [] := by
    rintro rfl
    exact hne rfl
  have hsubstitute : atoms.map column.substitute = atoms.map .ok := by
    refine List.map_congr_left fun a ha => substitute_of_no_letter fun c hc => ?_
    exact not_isLetter_of_isColumnCharacter (hfine a ha c hc)
  have hwhole : ∀ c ∈ Text.joined ',' atoms, isColumnCharacter c := by
    intro c hc
    rcases Text.mem_joined hc with rfl | ⟨a, ha, hc⟩
    · rfl
    · exact hfine a ha c hc
  rcases column.bounds.span_eq with hspan | hspan
  · have hlimit : ∀ a ∈ atoms,
        (digitsOf (writeStars column.bounds.text a)).length ≤ Text.digitLimit :=
      fun a ha => hshort a ha _ (expandWildcard_eq_ok_iff.mpr ⟨hspan, rfl⟩)
    rw [expandWildcard_eq_pure hspan, List.mapM_pure, pure_bind, ← digitOrder_map_writeStars]
    exact compile_joined_eq_collect hatoms hsingle hspan hsubstitute ⟨hne, hwhole⟩ hlimit
  · obtain ⟨a, ha⟩ := List.exists_mem_of_ne_nil atoms hatoms
    have hsortedNe : atoms.mergeSort (fun a b => column.sortKey a ≤ column.sortKey b) ≠ [] :=
      List.ne_nil_of_mem (List.mem_mergeSort.mpr ha)
    obtain ⟨first, rest, hsorted⟩ := List.exists_cons_of_ne_nil hsortedNe
    rw [hsorted, List.mapM_cons, expandWildcard, hspan]
    exact compile_eq_error_of_span (substitute_joined hatoms hsubstitute) ⟨hne, hwhole⟩ hspan

theorem compile_eq_error_iff_failsFirst (hne : Text.joined ',' atoms ≠ [])
    (hsingle : ∀ a ∈ atoms, ',' ∉ a) (hfine : ∀ a ∈ atoms, ∀ c ∈ a, isColumnCharacter c)
    (hshort : ∀ a ∈ atoms, ∀ expanded, expandWildcard column.bounds a = .ok expanded →
      (digitsOf expanded).length ≤ Text.digitLimit)
    {fault : Fault} : column.compile (Text.joined ',' atoms) = .error fault ↔
      ∃ atom, column.FailsFirst atoms atom fault := by
  rw [compile_joined_eq_collect_sorted hne hsingle hfine hshort]
  unfold FailsFirst
  generalize atoms.mergeSort (fun a b => column.sortKey a ≤ column.sortKey b) = sorted
  rcases column.bounds.span_eq with hspan | hspan
  · rw [expandWildcard_eq_pure hspan, List.mapM_pure, pure_bind, collect_eq_error_iff [],
      exists_firstFault_map_iff]
    rfl
  · have hfault (a : Text) : expandWildcard column.bounds a = .error .unwritableNumber := by
      rw [expandWildcard, hspan]
      rfl
    cases sorted with
    | nil =>
      constructor
      · intro h
        cases h
      · rintro ⟨atom, h⟩
        exact absurd h not_firstFault_nil
    | cons first rest =>
      have hfirst (atom : Text) :
          FirstFault (fun a => expandWildcard column.bounds a >>= column.add []) (first :: rest)
            atom fault ↔ atom = first ∧ fault = .unwritableNumber :=
        firstFault_cons_of_error (by simp only [hfault]; rfl)
      rw [List.mapM_cons, hfault]
      simp only [hfirst, exists_eq_left]
      exact ⟨fun h => (Except.error.inj h).symm, fun h => congrArg Except.error h.symm⟩

/-- A text without characters is no list that could be put in another order. -/
theorem joined_ne_nil_or_eq (h : atoms.Perm others) :
    Text.joined ',' atoms ≠ [] ∨ atoms = others := by
  cases atoms with
  | nil => exact .inr h.nil_eq
  | cons first rest =>
    cases rest with
    | nil => exact .inr (List.perm_singleton.mp h.symm).symm
    | cons second more =>
      rw [Text.joined_cons_cons]
      exact .inl (List.append_ne_nil_of_right_ne_nil _ (List.cons_ne_nil _ _))

/-- Two lists with the same ties compile alike, and what the one is refused for is the fault of the
same atom in the other. -/
theorem compile_of_sameTies (hties : SameTies column.sortKey atoms others)
    (hsingle : ∀ a ∈ atoms, ',' ∉ a) (hfine : ∀ a ∈ atoms, ∀ c ∈ a, isColumnCharacter c)
    (hshort : ∀ a ∈ atoms, ∀ expanded, expandWildcard column.bounds a = .ok expanded →
      (digitsOf expanded).length ≤ Text.digitLimit) :
    column.compile (Text.joined ',' atoms) = column.compile (Text.joined ',' others) ∧
      (Text.joined ',' atoms ≠ [] → ∀ fault,
        column.compile (Text.joined ',' atoms) = .error fault ↔
          ∃ atom, column.FailsFirst atoms atom fault ∧ column.FailsFirst others atom fault) := by
  have hsorted := hties.mergeSort_eq
  have hmem (a : Text) : a ∈ others → a ∈ atoms := hties.1.mem_iff.mpr
  constructor
  · rcases joined_ne_nil_or_eq hties.1 with hne | rfl
    · rcases joined_ne_nil_or_eq hties.1.symm with hneOthers | rfl
      · rw [compile_joined_eq_collect_sorted hne hsingle hfine hshort, hsorted,
          compile_joined_eq_collect_sorted hneOthers (fun a ha => hsingle a (hmem a ha))
            (fun a ha => hfine a (hmem a ha)) fun a ha => hshort a (hmem a ha)]
      · rfl
    · rfl
  · intro hne fault
    have hfails (atom : Text) :
        column.FailsFirst others atom fault ↔ column.FailsFirst atoms atom fault := by
      rw [FailsFirst, FailsFirst, hsorted]
    simp only [hfails, and_self]
    exact compile_eq_error_iff_failsFirst hne hsingle hfine hshort

end Column

namespace Field
open Column

def lateDays : List Text :=
  ["40".toList, "1-5".toList, "3/2".toList, "15".toList]

def lateDaysSorted : List Text :=
  ["1-5".toList, "15".toList, "3/2".toList, "40".toList]

/-- The range and the number that are both sorted as 15 keep their order. In either list 40 is the
atom that is refused. -/
theorem compile_lateDays_sorted :
    (SameTies dayOfMonth.column.sortKey lateDays lateDaysSorted ∧
      (∀ a ∈ lateDays, ',' ∉ a) ∧ (∀ a ∈ lateDays, ∀ c ∈ a, isColumnCharacter c) ∧
      (∀ a ∈ lateDays, ∀ expanded, expandWildcard dayOfMonth.column.bounds a = .ok expanded →
        (digitsOf expanded).length ≤ Text.digitLimit) ∧
      Text.joined ',' lateDays ≠ []) ∧
      dayOfMonth.column.compile "40,1-5,3/2,15".toList =
        .error (.parse (.valueOutside "day_of_month" 40 dayOfMonth.bounds)) ∧
      dayOfMonth.column.compile "1-5,15,3/2,40".toList =
        .error (.parse (.valueOutside "day_of_month" 40 dayOfMonth.bounds)) := by
  have hties : SameTies dayOfMonth.column.sortKey lateDays lateDaysSorted := by decide
  have hsingle : ∀ a ∈ lateDays, ',' ∉ a := by decide
  have hall : lateDays.all (fun a => a.all isColumnCharacter) = true := rfl
  have hfine : ∀ a ∈ lateDays, ∀ c ∈ a, isColumnCharacter c :=
    fun a ha => List.all_eq_true.mp (List.all_eq_true.mp hall a ha)
  have hshort : ∀ a ∈ lateDays, ∀ expanded,
      expandWildcard dayOfMonth.column.bounds a = .ok expanded →
        (digitsOf expanded).length ≤ Text.digitLimit := by
    intro a ha expanded hexpanded
    rw [(expandWildcard_eq_ok_iff.mp hexpanded).2]
    clear hexpanded
    revert a
    decide
  have hne : Text.joined ',' lateDays ≠ [] := by decide
  have hsorted : (lateDaysSorted.mergeSort fun a b =>
      dayOfMonth.column.sortKey a ≤ dayOfMonth.column.sortKey b) = lateDaysSorted :=
    List.mergeSort_of_pairwise (by decide)
  have hfails : dayOfMonth.column.FailsFirst lateDaysSorted "40".toList
      (.parse (.valueOutside "day_of_month" 40 dayOfMonth.bounds)) := by
    rw [FailsFirst, hsorted]
    refine ⟨["1-5".toList, "15".toList, "3/2".toList], [], rfl, ?_, rfl⟩
    simp only [List.forall_mem_cons]
    exact ⟨⟨_, rfl⟩, ⟨_, rfl⟩, ⟨_, rfl⟩, nofun⟩
  obtain ⟨hsame, hfirst⟩ := compile_of_sameTies hties hsingle hfine hshort
  have hrefused : dayOfMonth.column.compile "40,1-5,3/2,15".toList =
      .error (.parse (.valueOutside "day_of_month" 40 dayOfMonth.bounds)) := by
    refine (hfirst hne _).mpr ⟨"40".toList, ?_, hfails⟩
    rw [FailsFirst, hties.mergeSort_eq]
    exact hfails
  exact ⟨⟨hties, hsingle, hfine, hshort, hne⟩, hrefused, hsame.symm.trans hrefused⟩

end Field
end Crontab
