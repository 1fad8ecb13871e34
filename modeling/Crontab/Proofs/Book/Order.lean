import Mathlib.Data.List.Nodup
import Mathlib.Data.List.Perm.Basic
import Crontab.Proofs.Book

/-! # The order of the entries of a book

Entries are compiled in the order in which they are given, and the first one that does not compile
is reported. A book is asked in the order of the names. So what it answers does not depend on the
order of its entries: the names that are due, or the fault of the smallest name that has no answer.
-/
namespace Crontab.Book
variable {expressions others : List (Text × Value)} {schedules : List (Text × Schedule)}
variable {provider : Provider} {instant : Instant} {zone? : Option Text} {b : Book} {fault : Fault}

section Compiling

def compileEntry (entry : Text × Value) : Except Fault Schedule :=
  Schedule.compileValue entry.2

theorem compileAll_eq_ok_iff : compileAll expressions = .ok schedules ↔
    List.Forall₂ (fun entry compiled => compiled.1 = entry.1 ∧
      compileEntry entry = .ok compiled.2) expressions schedules := by
  induction expressions generalizing schedules with
  | nil =>
    rw [List.forall₂_nil_left_iff]
    constructor
    · intro h
      cases h
      rfl
    · rintro rfl
      rfl
  | cons entry rest ih =>
    obtain ⟨name, expression⟩ := entry
    rw [compileAll_cons, List.forall₂_cons_left_iff, compileEntry]
    cases Schedule.compileValue expression with
    | error cause =>
      refine iff_of_false nofun ?_
      rintro ⟨_, _, ⟨-, hschedule⟩, -⟩
      cases hschedule
    | ok schedule =>
      constructor
      · intro h
        obtain ⟨compiled, hrest, rfl⟩ := map_eq_ok_iff.mp h
        exact ⟨(name, schedule), compiled, ⟨rfl, rfl⟩, ih.mp hrest, rfl⟩
      · rintro ⟨⟨_, _⟩, compiled, ⟨rfl, hschedule⟩, hrest, rfl⟩
        cases hschedule
        rw [ih.mpr hrest]
        rfl

/-- The first entry that does not compile is reported under its name. -/
theorem compileAll_eq_error_iff : compileAll expressions = .error fault ↔
    ∃ entry cause, FirstFault compileEntry expressions entry cause ∧
      fault = underName entry.1 cause := by
  induction expressions with
  | nil => exact ⟨nofun, fun ⟨_, _, h, _⟩ => absurd h not_firstFault_nil⟩
  | cons entry rest ih =>
    obtain ⟨name, expression⟩ := entry
    rw [compileAll_cons]
    cases hcompile : Schedule.compileValue expression with
    | error cause =>
      have hentry : compileEntry (name, expression) = .error cause := hcompile
      simp only [firstFault_cons_of_error hentry]
      constructor
      · intro h
        exact ⟨_, _, ⟨rfl, rfl⟩, (Except.error.inj h).symm⟩
      · rintro ⟨_, _, ⟨rfl, rfl⟩, rfl⟩
        rfl
    | ok schedule =>
      have hentry : compileEntry (name, expression) = .ok schedule := hcompile
      simp only [firstFault_cons_of_ok hentry, ← ih]
      exact map_eq_error_iff

theorem ofExpressions_eq_ok_iff (hnames : (expressions.map Prod.fst).Nodup) :
    ofExpressions expressions zone? provider = .ok b ↔
      ∃ schedules, compileAll expressions = .ok schedules ∧ b = ⟨schedules, zone?, provider⟩ := by
  rw [ofExpressions, distinct_of_nodup hnames, bind_eq_ok_iff]
  constructor
  · rintro ⟨schedules, hschedules, hb⟩
    exact ⟨schedules, hschedules, (Except.ok.inj hb).symm⟩
  · rintro ⟨schedules, hschedules, rfl⟩
    exact ⟨schedules, hschedules, rfl⟩

theorem names_of_compileAll (h : compileAll expressions = .ok schedules) :
    schedules.map Prod.fst = expressions.map Prod.fst :=
  ((compileAll_outcome expressions).of_eq_ok h).1

/-- Entries in another order compile to the same schedules in another order. -/
theorem compileAll_perm (hperm : others.Perm expressions)
    (h : compileAll expressions = .ok schedules) :
    ∃ permuted, compileAll others = .ok permuted ∧ permuted.Perm schedules := by
  obtain ⟨permuted, hcompiled, hschedules⟩ :=
    List.perm_comp_forall₂ hperm (compileAll_eq_ok_iff.mp h)
  exact ⟨permuted, compileAll_eq_ok_iff.mpr hcompiled, hschedules⟩

end Compiling

section Asking

def ask (b : Book) (instant : Instant) (entry : Text × Schedule) : Except Fault Bool :=
  entry.2.matchesInstant b.provider instant b.zone?

theorem dueAmong_cons (b : Book) (instant : Instant) (entry : Text × Schedule)
    (rest : List (Text × Schedule)) :
    b.dueAmong instant (entry :: rest) = b.ask instant entry >>= fun due =>
      (if due then (entry.1 :: ·) else id) <$> b.dueAmong instant rest := by
  obtain ⟨name, schedule⟩ := entry
  rw [dueAmong, ask]
  cases schedule.matchesInstant b.provider instant b.zone? with
  | error fault => rfl
  | ok due =>
    cases due <;> cases b.dueAmong instant rest <;> rfl

/-- The first entry without an answer ends the search. -/
theorem dueAmong_eq_error_iff : b.dueAmong instant schedules = .error fault ↔
    ∃ entry, FirstFault (b.ask instant) schedules entry fault := by
  induction schedules with
  | nil => exact ⟨nofun, fun ⟨_, h⟩ => absurd h not_firstFault_nil⟩
  | cons entry rest ih =>
    rw [dueAmong_cons]
    refine bind_eq_error_iff_firstFault (fun cause => Iff.rfl) fun due => ?_
    rw [map_eq_error_iff, ih]

theorem sorted_perm_eq {permuted : List (Text × Schedule)}
    (hnames : (schedules.map Prod.fst).Nodup) (hperm : permuted.Perm schedules) :
    sorted ⟨permuted, zone?, provider⟩ = sorted ⟨schedules, zone?, provider⟩ := by
  have hleft := sorted_perm ⟨permuted, zone?, provider⟩
  have hright := sorted_perm ⟨schedules, zone?, provider⟩
  refine List.Perm.eq_of_pairwise (fun x y hx hy hxy hyx => ?_) (pairwise_sorted _)
    (pairwise_sorted _) ((hleft.trans hperm).trans hright.symm)
  have hsame : x.1 = y.1 := Text.atMost_antisymm hxy hyx
  exact List.inj_on_of_nodup_map hnames (hperm.subset (hleft.subset hx)) (hright.subset hy) hsame

/-- What is due does not depend on the order of the schedules. -/
theorem due_perm {permuted : List (Text × Schedule)} (hnames : (schedules.map Prod.fst).Nodup)
    (hperm : permuted.Perm schedules) (instant : Instant) :
    due ⟨permuted, zone?, provider⟩ instant = due ⟨schedules, zone?, provider⟩ instant := by
  have hrun : ∀ entries, dueAmong ⟨permuted, zone?, provider⟩ instant entries =
      dueAmong ⟨schedules, zone?, provider⟩ instant entries := by
    intro entries
    induction entries with
    | nil => rfl
    | cons entry rest ih =>
      rw [dueAmong_cons, dueAmong_cons, ih]
      rfl
  rw [due, due, hrun, sorted_perm_eq hnames hperm]

end Asking

/-- The fault of the smallest name that has no answer. -/
def SmallestFault {α : Type} (f : α → Except Fault Bool) (entries : List (Text × α))
    (fault : Fault) : Prop :=
  ∃ entry ∈ entries, f entry.2 = .error fault ∧
    ∀ other ∈ entries, (∃ cause, f other.2 = .error cause) →
      entry.1 = other.1 ∨ entry.1.Before other.1

theorem smallestFault_of_due (h : b.due instant = .error fault) :
    SmallestFault (fun s => s.matchesInstant b.provider instant b.zone?) b.schedules fault := by
  obtain ⟨entry, front, back, hsorted, hfront, hfault⟩ := dueAmong_eq_error_iff.mp h
  have hmem : ∀ other, other ∈ b.schedules ↔ other ∈ front ++ entry :: back := by
    intro other
    rw [← hsorted]
    exact b.sorted_perm.mem_iff.symm
  have hbehind : ∀ other ∈ back, Text.atMost entry.1 other.1 = true := by
    have hpairwise := b.pairwise_sorted
    rw [hsorted] at hpairwise
    exact (List.pairwise_cons.mp (List.pairwise_append.mp hpairwise).2.1).1
  refine ⟨entry, (hmem entry).mpr (by simp), hfault, fun other hother hcause => ?_⟩
  rcases List.mem_append.mp ((hmem other).mp hother) with hother | hother
  · -- Everything in front of the first entry without an answer has one.
    obtain ⟨due, hdue⟩ := hfront other hother
    obtain ⟨cause, hcause⟩ := hcause
    cases hcause.symm.trans hdue
  · rcases List.mem_cons.mp hother with rfl | hother
    · exact .inl rfl
    · exact Text.atMost_iff.mp (hbehind other hother)

/-- The same told of the expressions from which the schedules were compiled. -/
theorem smallestFault_of_compiled (hall : compileAll expressions = .ok schedules)
    (h : SmallestFault (fun s => s.matchesInstant provider instant zone?) schedules fault) :
    SmallestFault (answer provider instant zone?) expressions fault := by
  obtain ⟨-, hcompile, hmem⟩ := (compileAll_outcome expressions).of_eq_ok hall
  obtain ⟨⟨name, s⟩, hs, hfault, hsmallest⟩ := h
  obtain ⟨expression, hexpression, hcompiled⟩ := (hmem name s).mp hs
  refine ⟨(name, expression), hexpression, (answer_of_compile hcompiled).trans hfault, ?_⟩
  rintro ⟨other, e⟩ hother ⟨cause, hcause⟩
  obtain ⟨t, ht⟩ := hcompile (other, e) hother
  have hschedule : (other, t) ∈ schedules := (hmem other t).mpr ⟨e, hother, ht⟩
  exact hsmallest (other, t) hschedule ⟨cause, (answer_of_compile ht).symm.trans hcause⟩

theorem exists_compileAll (h : ∀ entry ∈ expressions, ∃ s, compileEntry entry = .ok s) :
    ∃ schedules, compileAll expressions = .ok schedules := by
  obtain ⟨schedules, hall, -⟩ := (compileAll_outcome expressions).exists_ok fun fault hfault => by
    obtain ⟨entry, hentry, cause, hcause, -⟩ := hfault
    obtain ⟨s, hs⟩ := h entry hentry
    cases hcause.symm.trans hs
  exact ⟨schedules, hall⟩

/-- A book answers with the names that are due, or with the fault of the smallest name that has no
answer. -/
theorem due_outcome_of_compiled (hnames : (expressions.map Prod.fst).Nodup)
    (hbook : ofExpressions expressions zone? provider = .ok b) (instant : Instant) :
    Outcome (SmallestFault (answer provider instant zone?) expressions)
      (fun names =>
        (∀ entry ∈ expressions, ∃ due, answer provider instant zone? entry.2 = .ok due) ∧
          names.Pairwise Text.Before ∧
          ∀ name, name ∈ names ↔ ∃ expression, (name, expression) ∈ expressions ∧
            answer provider instant zone? expression = .ok true)
      (b.due instant) := by
  have hrun : ofExpressions expressions zone? provider >>= (·.due instant) = b.due instant := by
    rw [hbook]
    rfl
  cases hdue : b.due instant with
  | ok names => exact (ofExpressions_due_outcome hnames).of_eq_ok (hrun.trans hdue)
  | error fault =>
    obtain ⟨schedules, hall, rfl⟩ := (ofExpressions_eq_ok_iff hnames).mp hbook
    exact smallestFault_of_compiled hall (smallestFault_of_due hdue)

theorem ofExpressions_perm (hnames : (expressions.map Prod.fst).Nodup)
    (hbook : ofExpressions expressions zone? provider = .ok b) (hperm : others.Perm expressions) :
    ∃ permuted, ofExpressions others zone? provider = .ok permuted ∧
      ∀ instant, permuted.due instant = b.due instant := by
  obtain ⟨schedules, hall, rfl⟩ := (ofExpressions_eq_ok_iff hnames).mp hbook
  obtain ⟨permuted, hpermuted, hschedules⟩ := compileAll_perm hperm hall
  have hothers : (others.map Prod.fst).Nodup := (hperm.map Prod.fst).nodup_iff.mpr hnames
  have hdistinct : (schedules.map Prod.fst).Nodup := names_of_compileAll hall ▸ hnames
  exact ⟨_, (ofExpressions_eq_ok_iff hothers).mpr ⟨permuted, hpermuted, rfl⟩,
    due_perm hdistinct hschedules⟩

/-- If only faults of the text keep expressions from compiling, the first of them is reported. -/
theorem ofExpressions_refused (hnames : (expressions.map Prod.fst).Nodup)
    (hsome : ∃ entry ∈ expressions, ∃ cause, compileEntry entry = .error (.parse cause))
    (honly : ∀ entry ∈ expressions, ∀ fault, compileEntry entry = .error fault →
      ∃ cause, fault = .parse cause) :
    ∃ entry cause, FirstFault compileEntry expressions entry (.parse cause) ∧
      ofExpressions expressions zone? provider = .error (.parse (.scheduled entry.1 cause)) := by
  obtain ⟨failing, hfailing, cause, hcause⟩ := hsome
  obtain ⟨entry, fault, hfirst⟩ := exists_firstFault hfailing hcause
  obtain ⟨cause, rfl⟩ := honly entry hfirst.mem.1 fault hfirst.mem.2
  have hall := compileAll_eq_error_iff.mpr ⟨entry, _, hfirst, rfl⟩
  refine ⟨entry, cause, hfirst, ?_⟩
  rw [ofExpressions, distinct_of_nodup hnames, hall]
  rfl

/-- If all expressions compile, then a book answers with the names that are due, each once and in
ascending order, or with the fault of the smallest name that has no answer, and the order
of the entries does not matter. If only faults of the text keep expressions from compiling, then
the first such entry is reported and there is no book. -/
theorem ofExpressions_due (hnames : (expressions.map Prod.fst).Nodup) (zone? : Option Text)
    (provider : Provider) :
    ((∀ entry ∈ expressions, ∃ s, compileEntry entry = .ok s) →
      ∃ b, ofExpressions expressions zone? provider = .ok b ∧ ∀ instant,
        ((∀ entry ∈ expressions, ∃ due, answer provider instant zone? entry.2 = .ok due) →
          ∃ names, b.due instant = .ok names ∧ names.Pairwise Text.Before ∧
            ∀ name, name ∈ names ↔ ∃ expression, (name, expression) ∈ expressions ∧
              answer provider instant zone? expression = .ok true) ∧
        ((∃ entry ∈ expressions, ∃ cause, answer provider instant zone? entry.2 = .error cause) →
          ∃ fault, b.due instant = .error fault ∧
            SmallestFault (answer provider instant zone?) expressions fault) ∧
        ∀ others, others.Perm expressions → ∃ permuted,
          ofExpressions others zone? provider = .ok permuted ∧
            permuted.due instant = b.due instant) ∧
    ((∃ entry ∈ expressions, ∃ cause, compileEntry entry = .error (.parse cause)) →
      (∀ entry ∈ expressions, ∀ fault, compileEntry entry = .error fault →
        ∃ cause, fault = .parse cause) →
      ∃ entry cause reported, FirstFault compileEntry expressions entry (.parse cause) ∧
        ofExpressions expressions zone? provider = .error (.parse reported) ∧
        reported.kind = cause.kind ∧ reported.label? = cause.label? ∧
        reported.subject = cause.subject) := by
  constructor
  · intro hcompile
    obtain ⟨schedules, hall⟩ := exists_compileAll hcompile
    have hbook : ofExpressions expressions zone? provider = .ok ⟨schedules, zone?, provider⟩ :=
      (ofExpressions_eq_ok_iff hnames).mpr ⟨schedules, hall, rfl⟩
    refine ⟨_, hbook, fun instant => ?_⟩
    have houtcome := due_outcome_of_compiled hnames hbook instant
    refine ⟨fun hanswers => ?_, fun hfails => ?_, fun others hperm => ?_⟩
    · have hfine : ∀ fault, ¬ SmallestFault (answer provider instant zone?) expressions fault := by
        rintro fault ⟨entry, hentry, hfault, -⟩
        obtain ⟨due, hok⟩ := hanswers entry hentry
        cases hfault.symm.trans hok
      obtain ⟨names, hdue, -, hdescribed⟩ := houtcome.exists_ok hfine
      exact ⟨names, hdue, hdescribed⟩
    · refine houtcome.exists_error fun names hanswered => ?_
      obtain ⟨entry, hentry, cause, hcause⟩ := hfails
      obtain ⟨due, hok⟩ := hanswered.1 entry hentry
      cases hcause.symm.trans hok
    · obtain ⟨permuted, hpermuted, hsame⟩ := ofExpressions_perm hnames hbook hperm
      exact ⟨permuted, hpermuted, hsame instant⟩
  · intro hsome honly
    obtain ⟨entry, cause, hfirst, hrefused⟩ := ofExpressions_refused hnames hsome honly
    exact ⟨entry, cause, _, hfirst, hrefused, rfl, rfl, rfl⟩

/-- A clock that always shows nine in the morning of the first of March 2023, a Wednesday. -/
def marchMorning : Provider :=
  fun _ _ => .ok ⟨2023, 2, 1, 3, 9, 0, 0, 0⟩

def mornings : List (Text × Value) :=
  [("report".toList, .text "0 0 9 * * wed".toList), ("backup".toList, .text "@daily".toList)]

def februaries : List (Text × Value) :=
  [("payday".toList, .text "0 0 12 30 2 *".toList), ("noon".toList, .text "0 0 12 * 2 *".toList)]

def lateMinutes : List (Text × Value) :=
  [("late".toList, .text "0 61 * * * *".toList), ("early".toList, .text "0 9-5 * * * *".toList)]

/-- Of two entries that are refused in March the smaller name is reported, of two that do not
compile the first one. -/
theorem ofExpressions_due_mornings :
    (∃ b names permuted, ofExpressions mornings none marchMorning = .ok b ∧
      b.due (.value .null) = .ok names ∧ "report".toList ∈ names ∧ "backup".toList ∉ names ∧
        ofExpressions mornings.reverse none marchMorning = .ok permuted ∧
          permuted.due (.value .null) = .ok names) ∧
      (∃ b, ofExpressions februaries none marchMorning = .ok b ∧
        b.due (.value .null) = .error (.dayOutsideMonth 2 31)) ∧
      ∃ reported, ofExpressions lateMinutes none marchMorning = .error (.parse reported) ∧
        reported.kind = .bounds ∧ reported.label? = some "minute" ∧ reported.subject = .int 61 := by
  have hmornings : (mornings.map Prod.fst).Nodup := by decide
  have hfebruaries : (februaries.map Prod.fst).Nodup := by decide
  have hlate : (lateMinutes.map Prod.fst).Nodup := by decide
  refine ⟨?_, ?_, ?_⟩
  · have hreport : answer marchMorning (.value .null) none (.text "0 0 9 * * wed".toList) =
        .ok true := rfl
    have hbackup : answer marchMorning (.value .null) none (.text "@daily".toList) =
        .ok false := rfl
    obtain ⟨b, hb, hdue⟩ := (ofExpressions_due hmornings none marchMorning).1
      (List.forall_mem_cons.mpr ⟨⟨_, rfl⟩, List.forall_mem_singleton.mpr ⟨_, rfl⟩⟩)
    obtain ⟨hnames, -, hperm⟩ := hdue (.value .null)
    obtain ⟨names, hok, -, hmem⟩ := hnames
      (List.forall_mem_cons.mpr ⟨⟨_, hreport⟩, List.forall_mem_singleton.mpr ⟨_, hbackup⟩⟩)
    obtain ⟨permuted, hpermuted, hsame⟩ := hperm _ (List.reverse_perm mornings)
    refine ⟨b, names, permuted, hb, hok, (hmem _).mpr ⟨_, List.mem_cons_self, hreport⟩, ?_,
      hpermuted, hsame.trans hok⟩
    intro hbackups
    obtain ⟨expression, hexpression, htrue⟩ := (hmem _).mp hbackups
    simp only [mornings, List.mem_cons, List.not_mem_nil, or_false, Prod.mk.injEq] at hexpression
    rcases hexpression with ⟨hname, -⟩ | ⟨-, rfl⟩
    · exact absurd hname (by decide)
    · cases hbackup.symm.trans htrue
  · have hnoon : answer marchMorning (.value .null) none (.text "0 0 12 * 2 *".toList) =
        .error (.dayOutsideMonth 2 31) := rfl
    obtain ⟨b, hb, hdue⟩ := (ofExpressions_due hfebruaries none marchMorning).1
      (List.forall_mem_cons.mpr ⟨⟨_, rfl⟩, List.forall_mem_singleton.mpr ⟨_, rfl⟩⟩)
    have hlast : ("noon".toList, Value.text "0 0 12 * 2 *".toList) ∈ februaries :=
      List.mem_cons_of_mem _ List.mem_cons_self
    obtain ⟨fault, hfault, entry, hentry, hcause, hsmallest⟩ :=
      (hdue (.value .null)).2.1 ⟨_, hlast, _, hnoon⟩
    refine ⟨b, hb, hfault.trans ?_⟩
    simp only [februaries, List.mem_cons, List.not_mem_nil, or_false] at hentry
    rcases hentry with rfl | rfl
    · have hbefore := hsmallest _ hlast ⟨_, hnoon⟩
      exact absurd (Text.atMost_iff.mpr hbefore) (by decide)
    · exact congrArg Except.error (Except.error.inj (hcause.symm.trans hnoon))
  · have hlarge : compileEntry ("late".toList, .text "0 61 * * * *".toList) =
        .error (.parse (.valueOutside "minute" 61 Field.minute.bounds)) := rfl
    have hbackwards : compileEntry ("early".toList, .text "0 9-5 * * * *".toList) =
        .error (.parse (.badRange "minute" "9-5".toList)) := rfl
    have honly : ∀ entry ∈ lateMinutes, ∀ fault, compileEntry entry = .error fault →
        ∃ cause, fault = .parse cause := by
      intro entry hentry fault hfault
      simp only [lateMinutes, List.mem_cons, List.not_mem_nil, or_false] at hentry
      rcases hentry with rfl | rfl
      · exact ⟨_, (Except.error.inj (hlarge.symm.trans hfault)).symm⟩
      · exact ⟨_, (Except.error.inj (hbackwards.symm.trans hfault)).symm⟩
    obtain ⟨entry, cause, reported, hfirst, hrefused, hkind, hlabel, hsubject⟩ :=
      (ofExpressions_due hlate none marchMorning).2 ⟨_, List.mem_cons_self, _, hlarge⟩ honly
    obtain ⟨-, hcause⟩ := (firstFault_cons_of_error hlarge).mp hfirst
    cases hcause
    exact ⟨reported, hrefused, hkind, hlabel, hsubject⟩

end Crontab.Book
