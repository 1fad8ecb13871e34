import Crontab.Proofs.Outcome
import Crontab.Proofs.Text.Order

/-! # What a book answers

A book is compiled in the order of its entries and asked in the order of their
names. It gives the names that are due in ascending order, each once, unless the
expression or the schedule of an entry ends in a fault.
-/
namespace Crontab.Book
variable {α : Type} {expressions : List (Text × Value)}
variable {provider : Provider} {instant : Instant} {zone? : Option Text}

section Distinct
variable {name : Text} {entry : α} {stored entries : List (Text × α)}

theorem put_of_not_mem (h : name ∉ stored.map Prod.fst) :
    put name entry stored = stored ++ [(name, entry)] := by
  induction stored with
  | nil => rfl
  | cons first rest ih =>
    rw [List.map_cons, List.mem_cons, not_or] at h
    rw [put, if_neg (Ne.symm h.1), ih h.2, List.cons_append]

theorem foldl_put_of_nodup (h : ((stored ++ entries).map Prod.fst).Nodup) :
    entries.foldl (fun stored (name, entry) => put name entry stored) stored = stored ++ entries := by
  induction entries generalizing stored with
  | nil => exact (List.append_nil stored).symm
  | cons first rest ih =>
    have hfirst : first.1 ∉ stored.map Prod.fst := by
      intro hmem
      rw [List.map_append, List.nodup_append] at h
      exact h.2.2 _ hmem _ List.mem_cons_self rfl
    rw [List.append_cons] at h ⊢
    rw [List.foldl_cons]
    dsimp only
    rw [put_of_not_mem hfirst]
    exact ih h

/-- Entries with distinct names are stored as they are. -/
theorem distinct_of_nodup (h : (entries.map Prod.fst).Nodup) : distinct entries = entries :=
  foldl_put_of_nodup h

end Distinct

/-- A fault as it is reported for the entry of a name. -/
def underName (name : Text) : Fault → Fault
  | .parse cause => .parse (.scheduled name cause)
  | fault => fault

@[simp]
theorem isCronFault_underName (name : Text) (fault : Fault) :
    (underName name fault).isCronFault = fault.isCronFault := by
  cases fault <;> rfl

theorem compileAll_cons {name : Text} {expression : Value} :
    compileAll ((name, expression) :: expressions) =
      match Schedule.compileValue expression with
      | .ok schedule => ((name, schedule) :: ·) <$> compileAll expressions
      | .error fault => .error (underName name fault) := by
  rw [compileAll]
  cases Schedule.compileValue expression with
  | ok schedule => rfl
  | error fault => cases fault <;> rfl

/-- Every entry is compiled under its name, or one of them does not compile. -/
theorem compileAll_outcome (expressions : List (Text × Value)) :
    Outcome
      (fun fault => ∃ entry ∈ expressions, ∃ cause,
        Schedule.compileValue entry.2 = .error cause ∧ fault = underName entry.1 cause)
      (fun schedules =>
        schedules.map Prod.fst = expressions.map Prod.fst ∧
          (∀ entry ∈ expressions, ∃ s, Schedule.compileValue entry.2 = .ok s) ∧
          ∀ name s, (name, s) ∈ schedules ↔
            ∃ expression, (name, expression) ∈ expressions ∧
              Schedule.compileValue expression = .ok s)
      (compileAll expressions) := by
  induction expressions with
  | nil => exact ⟨rfl, nofun, fun name s => iff_of_false nofun nofun⟩
  | cons entry rest ih =>
    obtain ⟨first, expression⟩ := entry
    rw [compileAll_cons]
    cases hcompile : Schedule.compileValue expression with
    | ok schedule =>
      refine (ih.imp (fun fault hfault => ?_) fun _ => id).map fun others hothers => ?_
      · obtain ⟨entry, hentry, hfault⟩ := hfault
        exact ⟨entry, List.mem_cons_of_mem _ hentry, hfault⟩
      · obtain ⟨hnames, hall, hmem⟩ := hothers
        refine ⟨congrArg (first :: ·) hnames,
          List.forall_mem_cons.mpr ⟨⟨schedule, hcompile⟩, hall⟩, fun name s => ?_⟩
        simp only [List.mem_cons, Prod.mk.injEq, hmem]
        constructor
        · rintro (⟨rfl, rfl⟩ | ⟨e, he, hs⟩)
          · exact ⟨expression, Or.inl ⟨rfl, rfl⟩, hcompile⟩
          · exact ⟨e, Or.inr he, hs⟩
        · rintro ⟨e, ⟨rfl, rfl⟩ | he, hs⟩
          · exact Or.inl ⟨rfl, Except.ok.inj (hs.symm.trans hcompile)⟩
          · exact Or.inr ⟨e, he, hs⟩
    | error cause => exact ⟨_, List.mem_cons_self, cause, hcompile, rfl⟩

/-- The names of the entries that are due, in the order of the entries, if all of them can be
compared with the instant. -/
theorem dueAmong_outcome (b : Book) (instant : Instant) (schedules : List (Text × Schedule)) :
    Outcome
      (fun fault => ∃ entry ∈ schedules,
        entry.2.matchesInstant b.provider instant b.zone? = .error fault)
      (fun names =>
        (∀ entry ∈ schedules, ∃ due, entry.2.matchesInstant b.provider instant b.zone? = .ok due) ∧
          names = (schedules.filter fun entry =>
            (entry.2.matchesInstant b.provider instant b.zone?).toOption == some true).map Prod.fst)
      (b.dueAmong instant schedules) := by
  induction schedules with
  | nil => exact ⟨nofun, rfl⟩
  | cons entry rest ih =>
    obtain ⟨name, schedule⟩ := entry
    rw [dueAmong, List.filter_cons]
    cases hmatch : schedule.matchesInstant b.provider instant b.zone? with
    | error fault => exact ⟨_, List.mem_cons_self, hmatch⟩
    | ok due =>
      change Outcome _ _ (b.dueAmong instant rest >>= fun others =>
        pure (if due then name :: others else others))
      refine Outcome.bind (ih.imp (fun fault hfault => ?_) fun _ => id) fun others hothers => ?_
      · obtain ⟨entry, hentry, hfault⟩ := hfault
        exact ⟨entry, List.mem_cons_of_mem _ hentry, hfault⟩
      · refine ⟨List.forall_mem_cons.mpr ⟨⟨due, hmatch⟩, hothers.1⟩, ?_⟩
        cases due with
        | true => exact congrArg (name :: ·) hothers.2
        | false => exact hothers.2

section Asking
variable {b : Book}

theorem sorted_perm (b : Book) : b.sorted.Perm b.schedules :=
  List.mergeSort_perm _ _

theorem pairwise_sorted (b : Book) :
    b.sorted.Pairwise fun x y => Text.atMost x.1 y.1 = true := by
  have htrans : ∀ x y z : Text × Schedule, Text.atMost x.1 y.1 = true →
      Text.atMost y.1 z.1 = true → Text.atMost x.1 z.1 = true :=
    fun _ _ _ => Text.atMost_trans
  have htotal : ∀ x y : Text × Schedule, (Text.atMost x.1 y.1 || Text.atMost y.1 x.1) = true :=
    fun x y => Text.atMost_total x.1 y.1
  exact List.pairwise_mergeSort htrans htotal b.schedules

/-- Distinct names ascend strictly. -/
theorem names_pairwise_before (h : (b.schedules.map Prod.fst).Nodup) :
    b.names.Pairwise Text.Before := by
  have hsorted : b.names.Pairwise fun x y => Text.atMost x y = true :=
    List.pairwise_map.mpr b.pairwise_sorted
  have hdistinct : b.names.Nodup := (b.sorted_perm.map Prod.fst).nodup_iff.mpr h
  refine (hsorted.and hdistinct).imp fun hxy => ?_
  exact (Text.atMost_iff.mp hxy.1).resolve_left hxy.2

/-- The names that are due, in ascending order, if all schedules can be compared with the
instant. -/
theorem due_outcome (h : (b.schedules.map Prod.fst).Nodup) (instant : Instant) :
    Outcome
      (fun fault => ∃ entry ∈ b.schedules,
        entry.2.matchesInstant b.provider instant b.zone? = .error fault)
      (fun names =>
        (∀ entry ∈ b.schedules, ∃ due, entry.2.matchesInstant b.provider instant b.zone? = .ok due) ∧
          names.Pairwise Text.Before ∧
          ∀ name, name ∈ names ↔ ∃ s, (name, s) ∈ b.schedules ∧
            s.matchesInstant b.provider instant b.zone? = .ok true)
      (b.due instant) := by
  have hmem : ∀ entry, entry ∈ b.sorted ↔ entry ∈ b.schedules := fun entry => b.sorted_perm.mem_iff
  refine (b.dueAmong_outcome instant b.sorted).imp (fun fault hfault => ?_) fun names hnames => ?_
  · obtain ⟨entry, hentry, hfault⟩ := hfault
    exact ⟨entry, (hmem entry).mp hentry, hfault⟩
  · obtain ⟨hall, rfl⟩ := hnames
    refine ⟨fun entry hentry => hall entry ((hmem entry).mpr hentry), ?_, fun name => ?_⟩
    · exact (names_pairwise_before h).sublist (List.filter_sublist.map Prod.fst)
    · rw [List.mem_map]
      constructor
      · rintro ⟨⟨_, s⟩, hentry, rfl⟩
        rw [List.mem_filter, hmem, beq_iff_eq] at hentry
        obtain ⟨due, hdue⟩ := hall _ ((hmem _).mpr hentry.1)
        refine ⟨s, hentry.1, ?_⟩
        have htrue := hentry.2
        rw [hdue] at htrue ⊢
        exact congrArg Except.ok (Option.some.inj htrue)
      · rintro ⟨s, hs, hdue⟩
        refine ⟨(name, s), ?_, rfl⟩
        rw [List.mem_filter, hmem, hdue]
        exact ⟨hs, rfl⟩

end Asking

/-- What an expression answers to an instant. -/
def answer (provider : Provider) (instant : Instant) (zone? : Option Text) (expression : Value) :
    Except Fault Bool := do
  let schedule ← Schedule.compileValue expression
  schedule.matchesInstant provider instant zone?

theorem answer_of_compile {expression : Value} {s : Schedule}
    (h : Schedule.compileValue expression = .ok s) :
    answer provider instant zone? expression = s.matchesInstant provider instant zone? := by
  rw [answer, h]
  rfl

/-- The names whose expressions are due, in ascending order, if every expression has an answer. -/
theorem ofExpressions_due_outcome (h : (expressions.map Prod.fst).Nodup) :
    Outcome
      (fun fault => ∃ entry ∈ expressions, ∃ cause,
        answer provider instant zone? entry.2 = .error cause ∧
          fault.isCronFault = cause.isCronFault)
      (fun names =>
        (∀ entry ∈ expressions, ∃ due, answer provider instant zone? entry.2 = .ok due) ∧
          names.Pairwise Text.Before ∧
          ∀ name, name ∈ names ↔ ∃ expression, (name, expression) ∈ expressions ∧
            answer provider instant zone? expression = .ok true)
      (ofExpressions expressions zone? provider >>= (·.due instant)) := by
  rw [ofExpressions, distinct_of_nodup h]
  have hcompiled := compileAll_outcome expressions
  cases hall : compileAll expressions with
  | error fault =>
    obtain ⟨entry, hentry, cause, hcause, rfl⟩ := hcompiled.of_eq_error hall
    exact ⟨entry, hentry, cause, by simp only [answer, hcause]; rfl, isCronFault_underName _ _⟩
  | ok schedules =>
    obtain ⟨hnames, hcompile, hmem⟩ := hcompiled.of_eq_ok hall
    have hdue := due_outcome (b := ⟨schedules, zone?, provider⟩) (hnames ▸ h) instant
    refine hdue.imp (fun fault hfault => ?_) fun names hnames => ?_
    · obtain ⟨⟨name, s⟩, hs, hfault⟩ := hfault
      obtain ⟨e, he, hs⟩ := (hmem name s).mp hs
      exact ⟨(name, e), he, fault, (answer_of_compile hs).trans hfault, rfl⟩
    · obtain ⟨hmatches, hpairwise, hiff⟩ := hnames
      refine ⟨fun entry hentry => ?_, hpairwise, fun name => ?_⟩
      · obtain ⟨s, hs⟩ := hcompile entry hentry
        obtain ⟨due, hdue⟩ := hmatches _ ((hmem entry.1 s).mpr ⟨entry.2, hentry, hs⟩)
        exact ⟨due, (answer_of_compile hs).trans hdue⟩
      · rw [hiff]
        constructor
        · rintro ⟨s, hs, hdue⟩
          obtain ⟨e, he, hs⟩ := (hmem name s).mp hs
          exact ⟨e, he, (answer_of_compile hs).trans hdue⟩
        · rintro ⟨e, he, hdue⟩
          obtain ⟨s, hs⟩ := hcompile _ he
          exact ⟨s, (hmem name s).mpr ⟨e, he, hs⟩, (answer_of_compile hs).symm.trans hdue⟩

end Crontab.Book
