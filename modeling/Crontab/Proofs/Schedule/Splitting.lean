import Mathlib.Tactic.IntervalCases
import Crontab.Proofs.Schedule.Compiling
import Crontab.Proofs.Text.Words

/-! # Six words

An expression that is no predefined name is read by its words alone: the first
six count, and stars stand in front of fewer. Joined by single spaces the six
words are an expression of their own, which is no name and has the same columns.
So the source of a schedule compiles to that schedule.
-/
namespace Crontab
variable {expression : Text}

/-- The expressions that stand for others. -/
def predefinedNames : List Text :=
  predefined.map Prod.fst

/-- Six words in order, stars in front of fewer than six. -/
def sixWords (given : List Text) : List Text :=
  List.replicate (6 - given.length) defaultWord ++ given.take 6

theorem length_sixWords (given : List Text) : (sixWords given).length = 6 := by
  simp only [sixWords, List.length_append, List.length_replicate, List.length_take]
  omega

namespace Row

theorem toList_ofWords (given : List Text) : (ofWords given).toList = sixWords given := by
  have hlength := length_sixWords given
  refine List.ext_getElem (by rw [hlength]; rfl) fun k hk hk' => ?_
  have hget : (ofWords given).toList[k] = (sixWords given).getD k defaultWord := by
    change k < 6 at hk
    interval_cases k <;> rfl
  rw [hget, List.getD_eq_getElem?_getD, List.getElem?_eq_getElem hk', Option.getD_some]

theorem ofWords_toList (row : Row Text) : ofWords row.toList = row := by
  refine ext_get fun f => ?_
  rw [ofWords, get_ofFn]
  cases f <;> rfl

end Row

theorem not_mem_predefinedNames (h : ' ' ∈ expression) : expression ∉ predefinedNames := by
  have hspace : ∀ name ∈ predefinedNames, ' ' ∉ name := by decide
  exact fun hname => hspace expression hname h

theorem lookup_predefined_eq_none (h : expression ∉ predefinedNames) :
    predefined.lookup expression = none := by
  refine List.lookup_eq_none_iff.mpr fun entry hentry => ?_
  have hne : expression ≠ entry.1 := fun he => h (he ▸ List.mem_map_of_mem hentry)
  exact bne_iff_ne.mpr hne

theorem splitExpression_eq (h : expression ∉ predefinedNames) :
    splitExpression expression = Row.ofWords (Text.words expression) := by
  rw [splitExpression, lookup_predefined_eq_none h]
  rfl

theorem mem_predefined_of_lookup {text : Text} (h : predefined.lookup expression = some text) :
    (expression, text) ∈ predefined := by
  obtain ⟨before, after, hentry, -⟩ := List.lookup_eq_some_iff.mp h
  exact hentry ▸ List.mem_append_right before List.mem_cons_self

/-- A column has a star, a word of the expression, or a word of what its name stands for. -/
theorem mem_toList_splitExpression {word : Text} (h : word ∈ (splitExpression expression).toList) :
    word = defaultWord ∨ word ∈ Text.words expression ∨
      ∃ entry ∈ predefined, word ∈ Text.words entry.2 := by
  rw [splitExpression, Row.toList_ofWords, sixWords] at h
  rcases List.mem_append.mp h with h | h
  · exact .inl (List.eq_of_mem_replicate h)
  have hword := List.mem_of_mem_take h
  cases hname : predefined.lookup expression with
  | none =>
    rw [hname] at hword
    exact .inr (.inl hword)
  | some text =>
    rw [hname] at hword
    exact .inr (.inr ⟨_, mem_predefined_of_lookup hname, hword⟩)

theorem isWord_of_mem_splitExpression {word : Text}
    (h : word ∈ (splitExpression expression).toList) : Text.IsWord word := by
  rcases mem_toList_splitExpression h with rfl | h | ⟨entry, -, h⟩
  · exact Text.isWord_singleton rfl
  · exact Text.isWord_of_mem_words h
  · exact Text.isWord_of_mem_words h

theorem space_mem_joined {ts : List Text} (h : 1 < ts.length) : ' ' ∈ Text.joined ' ' ts := by
  cases ts with
  | nil => cases h
  | cons t rest =>
    cases rest with
    | nil => exact absurd h (Nat.lt_irrefl 1)
    | cons next more => exact List.mem_append_right t List.mem_cons_self

/-- The six words with single spaces between them have the same columns. -/
theorem splitExpression_joined (expression : Text) :
    splitExpression (Text.joined ' ' (splitExpression expression).toList) =
      splitExpression expression := by
  have hspace : ' ' ∈ Text.joined ' ' (splitExpression expression).toList :=
    space_mem_joined (by decide : 1 < Field.all.length)
  rw [splitExpression_eq (not_mem_predefinedNames hspace),
    Text.words_joined fun _ => isWord_of_mem_splitExpression, Row.ofWords_toList]

namespace Schedule

theorem source_of_compile {s : Schedule} (h : compile expression = .ok s) :
    s.source = Text.joined ' ' (splitExpression expression).toList := by
  obtain ⟨row, -, hrow⟩ := bind_eq_ok_iff.mp h
  exact (ofRow_eq_ok_iff.mp hrow).2

/-- Compiling looks at the columns of an expression and at nothing else. -/
theorem compile_congr {other : Text} (h : splitExpression other = splitExpression expression) :
    compile other = compile expression := by
  unfold compile
  rw [h]

theorem compile_source {s : Schedule} (h : compile expression = .ok s) :
    compile s.source = .ok s := by
  rw [source_of_compile h, compile_congr (splitExpression_joined expression), h]

/-- Every expression has one canonical form, its six words with single spaces between them: words
alone decide about the columns, the form is read back as itself, and it compiles to the same
schedule. -/
theorem splitExpression_canonical (expression : Text) :
    ((splitExpression expression).toList.length = 6 ∧
        ∀ word ∈ (splitExpression expression).toList,
          word ≠ [] ∧ ∀ c ∈ word, Text.isBlank c = false) ∧
      (expression ∉ predefinedNames →
        (splitExpression expression).toList =
            List.replicate (6 - (Text.words expression).length) ['*'] ++
              (Text.words expression).take 6 ∧
          ∀ other, other ∉ predefinedNames → Text.words other = Text.words expression →
            splitExpression other = splitExpression expression) ∧
      splitExpression (Text.joined ' ' (splitExpression expression).toList) =
        splitExpression expression ∧
      ∀ s, compile expression = .ok s →
        ∃ again, compile s.source = .ok again ∧ again.row = s.row ∧ again.source = s.source := by
  refine ⟨⟨rfl, fun _ => isWord_of_mem_splitExpression⟩, fun hname => ⟨?_, ?_⟩,
    splitExpression_joined expression, fun s hs => ⟨s, compile_source hs, rfl, rfl⟩⟩
  · rw [splitExpression_eq hname]
    exact Row.toList_ofWords _
  · intro other hother hwords
    rw [splitExpression_eq hname, splitExpression_eq hother, hwords]

def officeHours : Schedule where
  row := ⟨[0], [30], Stride.indices 9 17, Stride.indices 1 31, Stride.indices 1 12, [1, 2, 3, 4, 5]⟩
  source := "0 30 9-17 * * mon-fri".toList
  admitted f := by cases f <;> decide

theorem compile_officeHours : compile officeHours.source = .ok officeHours := by
  have hcolumns : ∀ f : Field, f.column.compile
      ((splitExpression officeHours.source).get f) = .ok (officeHours.row.get f) := by
    intro f
    cases f <;> rfl
  exact compile_of_columns hcolumns

theorem splitExpression_canonical_officeHours :
    splitExpression "\t0 30 9-17\u3000*  * mon-fri\n".toList =
        splitExpression "0 30 9-17 * * mon-fri".toList ∧
      compile "0 30 9-17 * * mon-fri".toList = .ok officeHours ∧
      ∃ again, compile officeHours.source = .ok again ∧ again.row = officeHours.row ∧
        again.source = officeHours.source := by
  obtain ⟨-, hwords, -, hcompile⟩ := splitExpression_canonical "0 30 9-17 * * mon-fri".toList
  exact ⟨(hwords (by decide)).2 _ (by decide) (by decide), compile_officeHours,
    hcompile _ compile_officeHours⟩

end Schedule
end Crontab
