import Mathlib.Data.Finset.Sort
import Mathlib.Data.Int.ConditionallyCompleteOrder
import Mathlib.Order.ConditionallyCompleteLattice.Basic
import Crontab.Proofs.Field.Meaning

/-! # Printing numbers and reading them back

The digits of a printed number form the number itself, so a list of printed
numbers is merged in the order of its values. From an ascending list merging
drops repetitions and nothing else.
-/
namespace Crontab
open Text (Numeral)
variable {v : Int}

theorem digitNumber_numeral (a : Numeral) : digitNumber a.text = a.value := by
  have hdigits : digitsOf a.text = a.text :=
    List.filter_eq_self.mpr (Text.isNumeral_iff.mp a.digits).2
  have hempty : ¬ a.text.isEmpty = true := by
    rw [List.isEmpty_iff]
    exact a.ne_nil
  rw [digitNumber, hdigits, if_neg hempty]
  rfl

namespace Column.Item
variable {column : Column} {items : List (Item column)}

/-- An item that is one number. -/
def IsNumber (item : Item column) : Prop :=
  item.resolved.values column = [item.number] ∧ -1 < item.number ∧
    (digitsOf item.atom).length ≤ Text.digitLimit

theorem compile_numbers (hne : items ≠ []) (hitems : ∀ item ∈ items, item.IsNumber) :
    column.compile (Text.joined ',' (items.map raw)) =
      .ok ((items.map number).toFinset.sort (· ≤ ·)) := by
  have hvalues : (inOrder items).flatMap (fun item => item.resolved.values column) =
      (inOrder items).map number := by
    rw [List.map_eq_flatMap]
    exact List.flatMap_congr fun item hitem => (hitems item (mem_inOrder.mp hitem)).1
  have hascends : ((inOrder items).map number).Pairwise (· ≤ ·) :=
    List.pairwise_map.mpr (pairwise_mergeSort_number number items)
  have hmem : ∀ v, v ∈ (inOrder items).map number ↔ v ∈ items.map number := by
    intro v
    simp only [List.mem_map, mem_inOrder]
  have hbound : ∀ v ∈ (inOrder items).map number, -1 < v := by
    intro v hv
    obtain ⟨item, hitem, rfl⟩ := List.mem_map.mp ((hmem v).mp hv)
    exact (hitems item hitem).2.1
  refine (compile_joined_eq_ok_iff hne).mpr ⟨fun _ item hitem => (hitems item hitem).2.2, ?_⟩
  rw [hvalues]
  refine ((pairwise_records _ _).eq_of_mem_iff (Finset.sortedLT_sort _).pairwise fun v => ?_).symm
  rw [mem_records_iff hascends, Finset.mem_sort, List.mem_toFinset, ← hmem]
  exact ⟨fun h => h.1, fun h => ⟨h, hbound v h⟩⟩

/-- A printed number compiles to itself. In a week 7 is another number, so it is left out. -/
theorem exists_printed (hwritten : column.bounds.span = .ok column.bounds.text)
    (hmin : 0 ≤ column.bounds.min) (hv : column.bounds.Contains v)
    (hlimit : v < 10 ^ Text.digitLimit) (hweek : column.weekly = true → v ≤ 6) :
    ∃ item : column.Item, item.raw = Text.ofInt v ∧ item.number = v ∧ item.IsNumber := by
  obtain ⟨a, ha, hvalue⟩ := Numeral.exists_ofInt (Int.le_trans hmin hv.1) hlimit
  have haccepted := compile_numeral hwritten a
  rw [if_pos (hvalue ▸ hv)] at haccepted
  let item : column.Item := ⟨a.text, _, a.not_mem rfl, haccepted⟩
  have htext : item.text = a.text := by
    have hraw : column.substitute a.text = .ok a.text :=
      substitute_of_no_letter fun c hc =>
        not_isLetter_of_isColumnCharacter (a.isColumnCharacter_of_mem hc)
    exact Except.ok.inj (item.substitute_raw.symm.trans hraw)
  have hatom : item.atom = a.text := by
    rw [Item.atom, htext]
    exact writeStars_of_not_mem (a.not_mem rfl)
  have hresolved : item.resolved = .single v := by
    have hresolve := item.resolve_atom.1
    rw [hatom, resolve_numeral, hvalue] at hresolve
    exact (Except.ok.inj hresolve).symm
  have hnumber : item.number = v := by
    rw [Item.number, hatom, digitNumber_numeral, hvalue]
  refine ⟨item, ha, hnumber, ?_, ?_, ?_⟩
  · have hfold : (if column.weekly = true then v % 7 else v) = v := by
      split
      · next h =>
        have := hweek h
        omega
      · rfl
    rw [hresolved, hnumber, Resolved.values, hfold]
  · omega
  · rw [hatom]
    exact Nat.le_trans (List.length_filter_le _ _) a.short

theorem exists_printed_list {numbers : List Int}
    (hwritten : column.bounds.span = .ok column.bounds.text) (hmin : 0 ≤ column.bounds.min)
    (h : ∀ v ∈ numbers, column.bounds.Contains v ∧ v < 10 ^ Text.digitLimit ∧
      (column.weekly = true → v ≤ 6)) :
    ∃ items : List column.Item, items.map raw = numbers.map Text.ofInt ∧
      items.map number = numbers ∧ ∀ item ∈ items, item.IsNumber := by
  induction numbers with
  | nil => exact ⟨[], rfl, rfl, nofun⟩
  | cons v rest ih =>
    obtain ⟨⟨hv, hlimit, hweek⟩, hrest⟩ := List.forall_mem_cons.mp h
    obtain ⟨item, hraw, hnumber, hitem⟩ := exists_printed hwritten hmin hv hlimit hweek
    obtain ⟨items, hraws, hnumbers, hitems⟩ := ih hrest
    refine ⟨item :: items, ?_, ?_, List.forall_mem_cons.mpr ⟨hitem, hitems⟩⟩
    · rw [List.map_cons, List.map_cons, hraw, hraws]
    · rw [List.map_cons, hnumber, hnumbers]

end Column.Item

namespace Field
open Column Column.Item

theorem compile_printed_of_written {f : Field} {bounds : Bounds} {numbers : List Int}
    (hwritten : bounds.span = .ok bounds.text) (hmin : 0 ≤ bounds.min) (hne : numbers ≠ [])
    (hnumbers : ∀ v ∈ numbers, bounds.Contains v ∧ v < 10 ^ Text.digitLimit ∧
      (f = dayOfWeek → v ≤ 6)) :
    (f.within bounds).compile (Text.joined ',' (numbers.map Text.ofInt)) =
      .ok (numbers.toFinset.sort (· ≤ ·)) := by
  have hcolumn : ∀ v ∈ numbers, (f.within bounds).bounds.Contains v ∧ v < 10 ^ Text.digitLimit ∧
      ((f.within bounds).weekly = true → v ≤ 6) := by
    intro v hv
    obtain ⟨hwithin, hlimit, hweek⟩ := hnumbers v hv
    exact ⟨hwithin, hlimit, fun h => hweek (of_decide_eq_true h)⟩
  have hspan : (f.within bounds).bounds.span = .ok (f.within bounds).bounds.text := hwritten
  have hfirst : 0 ≤ (f.within bounds).bounds.min := hmin
  obtain ⟨items, hraws, hvalues, hitems⟩ := exists_printed_list hspan hfirst hcolumn
  have hitemsNe : items ≠ [] := by
    rintro rfl
    exact hne hvalues.symm
  have hcompile := compile_numbers hitemsNe hitems
  rw [hraws, hvalues] at hcompile
  exact hcompile

theorem compile_printed_of_unwritten {f : Field} {bounds : Bounds} {numbers : List Int}
    (hunwritten : bounds.span = .error .unwritableNumber) (hne : numbers ≠ [])
    (hnonneg : ∀ v ∈ numbers, 0 ≤ v) :
    (f.within bounds).compile (Text.joined ',' (numbers.map Text.ofInt)) =
      .error .unwritableNumber := by
  have hdigits : ∀ t ∈ numbers.map Text.ofInt, Text.isNumeral t = true := by
    intro t ht
    obtain ⟨v, hv, rfl⟩ := List.mem_map.mp ht
    exact Text.isNumeral_ofInt (hnonneg v hv)
  have htexts : numbers.map Text.ofInt ≠ [] := fun h => hne (List.map_eq_nil_iff.mp h)
  have hcharacters : ∀ c ∈ Text.joined ',' (numbers.map Text.ofInt), isColumnCharacter c = true := by
    intro c hc
    rcases Text.mem_joined hc with rfl | ⟨t, ht, hc⟩
    · rfl
    · rw [isColumnCharacter, (Text.isNumeral_iff.mp (hdigits t ht)).2 c hc]
      rfl
  have htext : Text.joined ',' (numbers.map Text.ofInt) ≠ [] :=
    Text.joined_ne_nil htexts fun t ht => (Text.isNumeral_iff.mp (hdigits t ht)).1
  exact compile_eq_error_of_span
    (substitute_of_no_letter fun c hc => not_isLetter_of_isColumnCharacter (hcharacters c hc))
    ⟨htext, hcharacters⟩ hunwritten

/-- Numbers printed with commas between them are read back in ascending order and once each, if the
bounds can be written. Otherwise every such text is refused. -/
theorem compile_printed (f : Field) (bounds : Bounds) (hmin : 0 ≤ bounds.min)
    {numbers : List Int} (hne : numbers ≠ [])
    (hnumbers : ∀ v ∈ numbers, bounds.Contains v ∧ v < 10 ^ Text.digitLimit ∧
      (f = dayOfWeek → v ≤ 6)) :
    (f.within bounds).compile (Text.joined ',' (numbers.map Text.ofInt)) =
        (if bounds.max < 10 ^ Text.digitLimit then .ok (numbers.toFinset.sort (· ≤ ·))
        else .error .unwritableNumber) ∧
      (bounds.max < 10 ^ Text.digitLimit → numbers.Pairwise (· < ·) →
        (f.within bounds).compile (Text.joined ',' (numbers.map Text.ofInt)) = .ok numbers) := by
  have hcompile : (f.within bounds).compile (Text.joined ',' (numbers.map Text.ofInt)) =
      if bounds.max < 10 ^ Text.digitLimit then .ok (numbers.toFinset.sort (· ≤ ·))
      else .error .unwritableNumber := by
    obtain ⟨v, hv⟩ := List.exists_mem_of_ne_nil numbers hne
    have hwithin := (hnumbers v hv).1
    split
    · next hmax =>
      have hle : bounds.min ≤ bounds.max := Int.le_trans hwithin.1 hwithin.2
      exact compile_printed_of_written (Bounds.span_of_lt hmin hle hmax) hmin hne hnumbers
    · next hmax =>
      exact compile_printed_of_unwritten (Bounds.span_of_le (Int.not_lt.mp hmax)) hne
        fun w hw => Int.le_trans hmin (hnumbers w hw).1.1
  refine ⟨hcompile, fun hmax hascends => ?_⟩
  have hnodup : numbers.Nodup := hascends.imp Int.ne_of_lt
  have hsorted : numbers.toFinset.sort (· ≤ ·) = numbers :=
    (List.toFinset_sort (· ≤ ·) hnodup).mpr (hascends.imp Int.le_of_lt)
  rw [hcompile, if_pos hmax, hsorted]

theorem compile_printed_minutes :
    (∀ v ∈ [30, 5, 0, 30], minute.bounds.Contains v ∧ v < 10 ^ Text.digitLimit ∧
      (minute = dayOfWeek → v ≤ 6)) ∧
      minute.column.compile "30,5,0,30".toList = .ok [0, 5, 30] := by
  have hnumbers : ∀ v ∈ [30, 5, 0, 30], minute.bounds.Contains v ∧ v < 10 ^ Text.digitLimit ∧
      (minute = dayOfWeek → v ≤ 6) := by
    intro v hv
    have hwithin : minute.bounds.Contains v := by
      revert v
      decide
    exact ⟨hwithin, Int.lt_of_le_of_lt hwithin.2 (minute.max_lt_pow (by decide)), nofun⟩
  have hsorted : [30, 5, 0, 30].toFinset.sort (· ≤ ·) = [(0 : Int), 5, 30] := by
    refine (Finset.sortedLT_sort _).pairwise.eq_of_mem_iff (by decide) fun v => ?_
    simp only [Finset.mem_sort, List.mem_toFinset, List.mem_cons, List.not_mem_nil, or_false]
    omega
  obtain ⟨hcompile, -⟩ := compile_printed minute minute.bounds (by decide) (by decide) hnumbers
  rw [if_pos (minute.max_lt_pow (by decide))] at hcompile
  exact ⟨hnumbers, hcompile.trans (congrArg Except.ok hsorted)⟩

/-- A minute is not read back from its own text if the greatest minute has one digit too many. -/
theorem compile_printed_refused :
    (∀ v ∈ [5], Bounds.Contains ⟨0, 10 ^ Text.digitLimit⟩ v ∧ v < 10 ^ Text.digitLimit ∧
      (minute = dayOfWeek → v ≤ 6)) ∧
      (minute.within ⟨0, 10 ^ Text.digitLimit⟩).compile "5".toList = .error .unwritableNumber := by
  have hfive : (5 : Int) < 10 ^ Text.digitLimit :=
    Int.lt_of_le_of_lt (by decide : (5 : Int) ≤ minute.bounds.max) (minute.max_lt_pow (by decide))
  have hnumbers : ∀ v ∈ [5], Bounds.Contains ⟨0, 10 ^ Text.digitLimit⟩ v ∧
      v < 10 ^ Text.digitLimit ∧ (minute = dayOfWeek → v ≤ 6) := by
    simp only [List.mem_singleton, forall_eq]
    exact ⟨⟨by decide, Int.le_of_lt hfive⟩, hfive, nofun⟩
  have hunwritten : Bounds.span ⟨0, 10 ^ Text.digitLimit⟩ = .error .unwritableNumber :=
    Bounds.span_of_le (Int.le_refl _)
  have hnonneg : ∀ v ∈ [(5 : Int)], 0 ≤ v := by decide
  have htext : Text.joined ',' ([5].map Text.ofInt) = "5".toList := rfl
  have hrefused : (minute.within ⟨0, 10 ^ Text.digitLimit⟩).compile
      (Text.joined ',' ([5].map Text.ofInt)) = .error .unwritableNumber :=
    compile_printed_of_unwritten hunwritten (List.cons_ne_nil _ _) hnonneg
  rw [htext] at hrefused
  exact ⟨hnumbers, hrefused⟩

end Field
end Crontab
