import Crontab.Calendar.Zone
import Crontab.CommandLine.Run
import Crontab.Proofs.Book
import Mathlib.Data.List.Basic

/-! # Testing and checking agree

One command tests a single expression, the other one checks all configured
schedules. Both read an instant on the clock of the configured zone, so checking
lists the names for which testing finds a match, and ends in an error if testing
ends in one for some name.
-/
namespace Crontab.CommandLine
variable {α : Type} {provider : Provider} {settings : Settings} {now : Instant} {at? : Option Text}
  {t : Text}

/-- What a test prints. -/
def testOutput (due : Bool) : Output :=
  if due then ⟨0, "match\n", ""⟩ else ⟨1, "no match\n", ""⟩

/-- What a check prints: the names that are due, one to a line. -/
def checkOutput (names : List Text) : Output :=
  ⟨if names.isEmpty then 1 else 0,
    String.join (names.map fun name => String.ofList name ++ "\n"), ""⟩

/-- Testing compares the expression with the instant. The zone is the one given, or else the
configured one, and universal time wins over both. -/
theorem runTest_eq (provider : Provider) (settings : Settings) (now : Instant) (expression : Text)
    (at? zone? : Option Text) (utc : Bool) :
    runTest provider settings now expression at? zone? utc =
      testOutput <$> cronMatches provider (.text expression) (instantOf at? now)
        (Trigger.zoneFor ((given? zone?).or settings.timezone?) (utc || settings.utc)) := by
  rw [runTest, Trigger.parse, cronMatches]
  cases Schedule.compileValue (.text expression) with
  | error fault => rfl
  | ok schedule =>
    simp only [Trigger.test, bind, Except.bind, pure, Except.pure]
    cases schedule.matchesInstant provider (instantOf at? now)
        (Trigger.zoneFor ((given? zone?).or settings.timezone?) (utc || settings.utc)) with
    | error fault => rfl
    | ok due => cases due <;> rfl

section Configured

/-- The configured expressions by name. -/
def expressionsOf (settings : Settings) : List (Text × Value) :=
  settings.schedules.map fun (name, expression) => (name, .text expression)

/-- The names of the configured expressions that are due. -/
def dueNames (provider : Provider) (settings : Settings) (instant : Instant) :
    Except Fault (List Text) := do
  let book ← Book.ofExpressions (expressionsOf settings) settings.effectiveZone? provider
  book.due instant

/-- What an expression answers on the configured clock. -/
def answerTo (provider : Provider) (settings : Settings) (instant : Instant) (expression : Text) :
    Except Fault Bool :=
  Book.answer provider instant settings.effectiveZone? (.text expression)

theorem runCheck_eq (h : settings.schedules ≠ []) :
    runCheck provider settings now at? =
      checkOutput <$> dueNames provider settings (instantOf at? now) := by
  have hsome : settings.schedules.isEmpty = false := List.isEmpty_eq_false_iff.mpr h
  rw [runCheck, hsome]
  change (Book.ofExpressions (expressionsOf settings) settings.effectiveZone? provider >>=
    fun book => book.due (instantOf at? now) >>= fun due => pure (checkOutput due)) = _
  rw [dueNames]
  cases Book.ofExpressions (expressionsOf settings) settings.effectiveZone? provider with
  | error fault => rfl
  | ok book =>
    simp only [bind, Except.bind]
    cases book.due (instantOf at? now) <;> rfl

theorem mem_expressionsOf {entry : Text × Value} :
    entry ∈ expressionsOf settings ↔
      ∃ expression, (entry.1, expression) ∈ settings.schedules ∧ entry.2 = .text expression := by
  rw [expressionsOf, List.mem_map]
  constructor
  · rintro ⟨⟨name, expression⟩, hentry, rfl⟩
    exact ⟨expression, hentry, rfl⟩
  · rintro ⟨expression, hentry, heq⟩
    exact ⟨_, hentry, Prod.ext rfl heq.symm⟩

theorem dueNames_outcome (provider : Provider)
    (hnames : (settings.schedules.map Prod.fst).Nodup) (instant : Instant) :
    Outcome
      (fun fault => ∃ entry ∈ settings.schedules, ∃ cause,
        answerTo provider settings instant entry.2 = .error cause ∧
          fault.isCronFault = cause.isCronFault)
      (fun names =>
        (∀ entry ∈ settings.schedules, ∃ due, answerTo provider settings instant entry.2 = .ok due) ∧
          names.Pairwise Text.Before ∧
          ∀ name, name ∈ names ↔ ∃ expression, (name, expression) ∈ settings.schedules ∧
            answerTo provider settings instant expression = .ok true)
      (dueNames provider settings instant) := by
  have hdistinct : ((expressionsOf settings).map Prod.fst).Nodup := by
    rw [expressionsOf, List.map_map]
    exact hnames
  refine (Book.ofExpressions_due_outcome hdistinct).imp (fun fault hfault => ?_) fun names h => ?_
  · obtain ⟨entry, hentry, cause, hcause, hcron⟩ := hfault
    obtain ⟨expression, hentry, hexpression⟩ := mem_expressionsOf.mp hentry
    rw [hexpression] at hcause
    exact ⟨_, hentry, cause, hcause, hcron⟩
  · obtain ⟨hall, hpairwise, hmem⟩ := h
    refine ⟨fun entry hentry => ?_, hpairwise, fun name => ?_⟩
    · exact hall (entry.1, .text entry.2) (mem_expressionsOf.mpr ⟨entry.2, hentry, rfl⟩)
    · rw [hmem]
      simp only [mem_expressionsOf]
      constructor
      · rintro ⟨_, ⟨expression, hentry, rfl⟩, hdue⟩
        exact ⟨expression, hentry, hdue⟩
      · rintro ⟨expression, hentry, hdue⟩
        exact ⟨_, ⟨expression, hentry, rfl⟩, hdue⟩

end Configured

/-- A fault is printed with code 2 if it is one of an expression, an instant or a zone, and else
ends the run. -/
theorem reported_map_eq_ok_iff {x : Except Fault α} {f : α → Output} {output : Output} :
    reported (f <$> x) = .ok output ↔
      (∃ a, x = .ok a ∧ output = f a) ∨
        ∃ fault, x = .error fault ∧ fault.isCronFault = true ∧
          output = ⟨2, "", s!"error: {fault.message}\n"⟩ := by
  cases x with
  | ok a =>
    constructor
    · intro h
      exact Or.inl ⟨a, rfl, (Except.ok.inj h).symm⟩
    · rintro (⟨b, hb, rfl⟩ | ⟨fault, hfault, -⟩)
      · cases hb
        rfl
      · cases hfault
  | error fault =>
    change (if fault.isCronFault = true then _ else Except.error fault) = .ok output ↔ _
    split
    · next hcron =>
      constructor
      · intro h
        exact Or.inr ⟨fault, rfl, hcron, (Except.ok.inj h).symm⟩
      · rintro (⟨a, ha, -⟩ | ⟨other, hother, -, rfl⟩)
        · cases ha
        · cases hother
          rfl
    · next hcron =>
      refine iff_of_false nofun ?_
      rintro (⟨a, ha, -⟩ | ⟨other, hother, htrue, -⟩)
      · cases ha
      · cases hother
        exact hcron htrue

theorem given?_some (ht : t ≠ []) : given? (some t) = some t := by
  simp [given?, Option.filter, ht]

theorem instantOf_some (ht : t ≠ []) : instantOf (some t) now = .value (.text t) := by
  rw [instantOf, given?_some ht]

/-- Testing the expression at the time given, without a zone of its own, ends with the code. -/
def TestEnds (provider : Provider) (settings : Settings) (now : Instant) (t expression : Text)
    (code : Nat) : Prop :=
  ∃ output, runCommand provider settings now (.test expression (some t) none false) = .ok output ∧
    output.code = code

section Codes
variable {expression : Text} {code : Nat}

/-- A test without a zone of its own reads the time on the clock on which schedules are checked. -/
theorem testEnds_iff (ht : t ≠ []) : TestEnds provider settings now t expression code ↔
    (∃ due, answerTo provider settings (.value (.text t)) expression = .ok due ∧
        code = if due then 0 else 1) ∨
      ∃ fault, answerTo provider settings (.value (.text t)) expression = .error fault ∧
        fault.isCronFault = true ∧ code = 2 := by
  have hrun : runCommand provider settings now (.test expression (some t) none false) =
      reported (testOutput <$> answerTo provider settings (.value (.text t)) expression) := by
    simp only [runCommand, runTest_eq, instantOf_some ht]
    rfl
  rw [TestEnds, hrun]
  simp only [reported_map_eq_ok_iff]
  constructor
  · rintro ⟨output, ⟨due, hdue, rfl⟩ | ⟨fault, hfault, hcron, rfl⟩, rfl⟩
    · exact Or.inl ⟨due, hdue, by cases due <;> rfl⟩
    · exact Or.inr ⟨fault, hfault, hcron, rfl⟩
  · rintro (⟨due, hdue, rfl⟩ | ⟨fault, hfault, hcron, rfl⟩)
    · exact ⟨_, Or.inl ⟨due, hdue, rfl⟩, by cases due <;> rfl⟩
    · exact ⟨_, Or.inr ⟨fault, hfault, hcron, rfl⟩, rfl⟩

theorem testEnds_zero_iff (ht : t ≠ []) :
    TestEnds provider settings now t expression 0 ↔
      answerTo provider settings (.value (.text t)) expression = .ok true := by
  rw [testEnds_iff ht]
  constructor
  · rintro (⟨due, hdue, hcode⟩ | ⟨fault, -, -, hcode⟩)
    · cases due with
      | true => exact hdue
      | false => cases hcode
    · cases hcode
  · intro h
    exact Or.inl ⟨true, h, rfl⟩

theorem testEnds_two_iff (ht : t ≠ []) : TestEnds provider settings now t expression 2 ↔
    ∃ fault, answerTo provider settings (.value (.text t)) expression = .error fault ∧
      fault.isCronFault = true := by
  rw [testEnds_iff ht]
  constructor
  · rintro (⟨due, -, hcode⟩ | ⟨fault, hfault, hcron, -⟩)
    · cases due <;> cases hcode
    · exact ⟨fault, hfault, hcron⟩
  · rintro ⟨fault, hfault, hcron⟩
    exact Or.inr ⟨fault, hfault, hcron, rfl⟩

end Codes

theorem runCommand_check (hschedules : settings.schedules ≠ []) (ht : t ≠ []) :
    runCommand provider settings now (.check (some t)) =
      reported (checkOutput <$> dueNames provider settings (.value (.text t))) := by
  rw [runCommand, runCheck_eq hschedules, instantOf_some ht]

/-- Checking ends in an error if testing ends in one for some configured expression. Otherwise it
prints the names of those for which testing finds a match, in ascending order. The names have to be
distinct, as those of loaded settings are. -/
theorem check_agrees_with_test (hnames : (settings.schedules.map Prod.fst).Nodup)
    (hschedules : settings.schedules ≠ []) (ht : t ≠ [])
    (hends : ∀ entry ∈ settings.schedules, ∃ code ≤ 2,
      TestEnds provider settings now t entry.2 code) :
    ((∀ entry ∈ settings.schedules, ¬ TestEnds provider settings now t entry.2 2) →
        ∃ names : List Text, names.Pairwise Text.Before ∧
          (∀ name, name ∈ names ↔ ∃ expression, (name, expression) ∈ settings.schedules ∧
            TestEnds provider settings now t expression 0) ∧
          runCommand provider settings now (.check (some t)) =
            .ok ⟨if names.isEmpty then 1 else 0,
              String.join (names.map fun name => String.ofList name ++ "\n"), ""⟩) ∧
      ((∃ entry ∈ settings.schedules, TestEnds provider settings now t entry.2 2) →
        ∃ message, runCommand provider settings now (.check (some t)) = .ok ⟨2, "", message⟩) := by
  -- Every fault of a configured expression is one that a test reports.
  have hcron : ∀ entry ∈ settings.schedules, ∀ cause,
      answerTo provider settings (.value (.text t)) entry.2 = .error cause →
        cause.isCronFault = true := by
    intro entry hentry cause hcause
    obtain ⟨code, -, hcode⟩ := hends entry hentry
    rcases (testEnds_iff ht).mp hcode with ⟨due, hdue, -⟩ | ⟨fault, hfault, hcron, -⟩
    · cases hcause.symm.trans hdue
    · cases hcause.symm.trans hfault
      exact hcron
  have houtcome := dueNames_outcome provider hnames (.value (.text t))
  rw [runCommand_check hschedules ht]
  cases hdue : dueNames provider settings (.value (.text t)) with
  | ok names =>
    obtain ⟨hall, hpairwise, hmem⟩ := houtcome.of_eq_ok hdue
    constructor
    · intro _
      refine ⟨names, hpairwise, fun name => ?_, rfl⟩
      rw [hmem]
      simp only [testEnds_zero_iff ht]
    · rintro ⟨entry, hentry, htwo⟩
      obtain ⟨fault, hfault, -⟩ := (testEnds_two_iff ht).mp htwo
      obtain ⟨due, hok⟩ := hall entry hentry
      cases hfault.symm.trans hok
  | error fault =>
    obtain ⟨entry, hentry, cause, hcause, heq⟩ := houtcome.of_eq_error hdue
    have hreported := hcron entry hentry cause hcause
    constructor
    · intro hnone
      exact absurd ((testEnds_two_iff ht).mpr ⟨cause, hcause, hreported⟩) (hnone entry hentry)
    · intro _
      exact ⟨_, reported_map_eq_ok_iff.mpr (Or.inr ⟨fault, rfl, heq.trans hreported, rfl⟩)⟩

/-- Two schedules on the clock of Paris. -/
def watches : Settings where
  home := "/home".toList
  timezone? := some "Europe/Paris".toList
  utc := false
  level := Settings.defaultLevel
  schedules := [("work".toList, "0 30 9-17 * * mon-fri".toList), ("night".toList, "@daily".toList)]

theorem check_agrees_with_test_watches :
    (∃ names : List Text, names.Pairwise Text.Before ∧
      (∀ name, name ∈ names ↔ ∃ expression, (name, expression) ∈ watches.schedules ∧
        TestEnds civilProvider watches (.value .null) "2024-05-01T08:30:00Z".toList expression 0) ∧
      runCommand civilProvider watches (.value .null) (.check (some "2024-05-01T08:30:00Z".toList)) =
        .ok ⟨if names.isEmpty then 1 else 0,
          String.join (names.map fun name => String.ofList name ++ "\n"), ""⟩) ∧
      ∃ message, runCommand civilProvider watches (.value .null) (.check (some "noon".toList)) =
        .ok ⟨2, "", message⟩ := by
  have hanswers : ∀ entry ∈ watches.schedules, ∃ due,
      answerTo civilProvider watches (.value (.text "2024-05-01T08:30:00Z".toList)) entry.2 =
        .ok due := by
    intro entry hentry
    simp only [watches, List.mem_cons, List.not_mem_nil, or_false] at hentry
    rcases hentry with rfl | rfl
    · exact ⟨true, rfl⟩
    · exact ⟨false, rfl⟩
  have hrefused : ∀ entry ∈ watches.schedules,
      TestEnds civilProvider watches (.value .null) "noon".toList entry.2 2 := by
    intro entry hentry
    simp only [watches, List.mem_cons, List.not_mem_nil, or_false] at hentry
    rcases hentry with rfl | rfl <;> exact ⟨_, rfl, rfl⟩
  constructor
  · refine (check_agrees_with_test (by decide) (by decide) (by decide) fun entry hentry => ?_).1
      fun entry hentry htwo => ?_
    · obtain ⟨due, hdue⟩ := hanswers entry hentry
      refine ⟨if due then 0 else 1, by cases due <;> decide, ?_⟩
      exact (testEnds_iff (by decide)).mpr (Or.inl ⟨due, hdue, rfl⟩)
    · obtain ⟨due, hdue⟩ := hanswers entry hentry
      obtain ⟨fault, hfault, -⟩ := (testEnds_two_iff (by decide)).mp htwo
      cases hfault.symm.trans hdue
  · exact (check_agrees_with_test (by decide) (by decide) (by decide) fun entry hentry =>
      ⟨2, Nat.le_refl 2, hrefused entry hentry⟩).2
        ⟨_, List.mem_cons_self, hrefused _ List.mem_cons_self⟩

end Crontab.CommandLine
