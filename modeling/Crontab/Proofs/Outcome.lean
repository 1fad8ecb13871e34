import Crontab.Fault

/-! # Outcomes of computations that may fail

A computation is described by what it may give and by the faults it may end in.
Reading the text of an expression ends in two kinds of fault only: a fault of the
text, and a run of digits beyond the limit. What goes through a list and stops at
a fault stops at the first entry that fails, as a search does at the first entry
that it looks for.
-/
namespace Crontab
variable {α β : Type} {failure : Fault → Prop} {good : α → Prop} {fine : β → Prop}

/-- Every result satisfies `good` and every fault satisfies `failure`. -/
def Outcome (failure : Fault → Prop) (good : α → Prop) : Except Fault α → Prop
  | .ok a => good a
  | .error fault => failure fault

namespace Outcome

theorem of_eq_ok {x : Except Fault α} {a : α} (hx : Outcome failure good x) (h : x = .ok a) :
    good a := by
  rw [h] at hx
  exact hx

theorem of_eq_error {x : Except Fault α} {fault : Fault} (hx : Outcome failure good x)
    (h : x = .error fault) : failure fault := by
  rw [h] at hx
  exact hx

theorem exists_ok {x : Except Fault α} (hx : Outcome failure good x)
    (hfailure : ∀ fault, ¬ failure fault) : ∃ a, x = .ok a ∧ good a := by
  cases x with
  | ok a => exact ⟨a, rfl, hx⟩
  | error fault => exact absurd hx (hfailure fault)

theorem exists_error {x : Except Fault α} (hx : Outcome failure good x)
    (hgood : ∀ a, ¬ good a) : ∃ fault, x = .error fault ∧ failure fault := by
  cases x with
  | ok a => exact absurd hx (hgood a)
  | error fault => exact ⟨fault, rfl, hx⟩

theorem bind {x : Except Fault α} {next : α → Except Fault β} (hx : Outcome failure good x)
    (hnext : ∀ a, good a → Outcome failure fine (next a)) : Outcome failure fine (x >>= next) := by
  cases x with
  | ok a => exact hnext a hx
  | error fault => exact hx

theorem map {x : Except Fault α} {f : α → β} (hx : Outcome failure good x)
    (hf : ∀ a, good a → fine (f a)) : Outcome failure fine (f <$> x) := by
  cases x with
  | ok a => exact hf a hx
  | error fault => exact hx

theorem imp {x : Except Fault α} {failure' : Fault → Prop} {good' : α → Prop}
    (hx : Outcome failure good x) (hfailure : ∀ fault, failure fault → failure' fault)
    (hgood : ∀ a, good a → good' a) : Outcome failure' good' x := by
  cases x with
  | ok a => exact hgood a hx
  | error fault => exact hfailure fault hx

theorem mapM {f : α → Except Fault β} {entries : List α}
    (h : ∀ a ∈ entries, Outcome failure fine (f a)) :
    Outcome failure (fun results => ∀ b ∈ results, fine b) (entries.mapM f) := by
  induction entries with
  | nil => intro b hb; cases hb
  | cons a rest ih =>
    rw [List.mapM_cons]
    refine bind (h a List.mem_cons_self) fun b hb => ?_
    refine bind (ih fun c hc => h c (List.mem_cons_of_mem a hc)) fun bs hbs => ?_
    intro c hc
    rcases List.mem_cons.mp hc with rfl | hc
    · exact hb
    · exact hbs c hc

end Outcome

section Success
variable {ε : Type} {c : Prop} [Decidable c] {cause : ε}

theorem bind_eq_ok_iff {x : Except ε α} {next : α → Except ε β} {b : β} :
    x >>= next = .ok b ↔ ∃ a, x = .ok a ∧ next a = .ok b := by
  cases x with
  | ok a => exact ⟨fun h => ⟨a, rfl, h⟩, fun ⟨_, ha, h⟩ => by cases ha; exact h⟩
  | error fault => exact ⟨nofun, fun ⟨_, ha, _⟩ => nomatch ha⟩

theorem pure_eq_ok_iff {a b : α} : (pure a : Except ε α) = .ok b ↔ a = b := by
  constructor
  · intro h
    exact Except.ok.inj h
  · intro h
    exact congrArg Except.ok h

theorem pure_ne_error {a : α} : (pure a : Except ε α) ≠ .error cause :=
  nofun

theorem map_eq_ok_iff {x : Except ε α} {f : α → β} {b : β} :
    f <$> x = .ok b ↔ ∃ a, x = .ok a ∧ f a = b := by
  cases x <;> simp [Functor.map, Except.map]

theorem map_eq_error_iff {x : Except ε α} {f : α → β} :
    f <$> x = .error cause ↔ x = .error cause := by
  cases x <;> simp [Functor.map, Except.map]

theorem guarded_eq_ok_iff {next : Except ε α} {a : α} :
    (if c then next else throw cause >>= fun (_ : PUnit) => next) = .ok a ↔ c ∧ next = .ok a := by
  split
  · next h => simp [h]
  · next h => exact ⟨nofun, fun hc => absurd hc.1 h⟩

theorem guarded_eq_error_iff {next : Except ε α} {other : ε} :
    (if c then next else throw cause >>= fun (_ : PUnit) => next) = .error other ↔
      ¬ c ∧ cause = other ∨ c ∧ next = .error other := by
  split
  · next h => simp [h]
  · next h =>
    simp only [h, not_false_eq_true, true_and, false_and, or_false]
    exact ⟨Except.error.inj, congrArg Except.error⟩

end Success

theorem mapM_eq_ok_iff {f : α → Except Fault β} {p : α → Prop} {g : α → β}
    (hf : ∀ a b, f a = .ok b ↔ p a ∧ b = g a) {entries : List α} {results : List β} :
    entries.mapM f = .ok results ↔ (∀ a ∈ entries, p a) ∧ results = entries.map g := by
  induction entries generalizing results with
  | nil => exact ⟨fun h => by cases h; simp, fun h => by rw [h.2]; rfl⟩
  | cons a rest ih =>
    simp only [List.mapM_cons, bind_eq_ok_iff, hf, ih, List.forall_mem_cons, List.map_cons]
    constructor
    · rintro ⟨_, ⟨ha, rfl⟩, _, ⟨hrest, rfl⟩, h⟩
      cases h
      exact ⟨⟨ha, hrest⟩, rfl⟩
    · rintro ⟨⟨ha, hrest⟩, rfl⟩
      exact ⟨g a, ⟨ha, rfl⟩, rest.map g, ⟨hrest, rfl⟩, rfl⟩

section Renaming
variable {ε δ : Type} {rename : ε → δ}

theorem mapError_pure (a : α) : (pure a : Except ε α).mapError rename = pure a := rfl

theorem mapError_throw (cause : ε) :
    (throw cause : Except ε α).mapError rename = throw (rename cause) := rfl

theorem mapError_bind (x : Except ε α) (next : α → Except ε β) :
    (x >>= next).mapError rename = x.mapError rename >>= fun a => (next a).mapError rename := by
  cases x <;> rfl

theorem mapError_map (x : Except ε α) (f : α → β) :
    (f <$> x).mapError rename = f <$> x.mapError rename := by
  cases x <;> rfl

theorem mapError_eq_ok_iff {x : Except ε α} {a : α} :
    x.mapError rename = .ok a ↔ x = .ok a := by
  cases x with
  | ok b =>
    constructor
    · intro h
      cases h
      rfl
    · intro h
      cases h
      rfl
  | error cause =>
    constructor
    · intro h
      cases h
    · intro h
      cases h

theorem mapError_ite {c : Prop} [Decidable c] (x y : Except ε α) :
    (if c then x else y).mapError rename = if c then x.mapError rename else y.mapError rename :=
  apply_ite _ c x y

theorem ok_or_error_of_mapError {x y : Except ε α}
    (h : x.mapError rename = y.mapError rename) :
    (∃ a, x = .ok a ∧ y = .ok a) ∨
      ∃ cause reason, x = .error cause ∧ y = .error reason ∧ rename cause = rename reason := by
  cases x with
  | ok a =>
    cases y with
    | ok b =>
      cases h
      exact .inl ⟨a, rfl, rfl⟩
    | error reason => cases h
  | error cause =>
    cases y with
    | ok b => cases h
    | error reason => exact .inr ⟨cause, reason, rfl, rfl, Except.error.inj h⟩

end Renaming

section Results
variable {f : α → Except Fault β} {entries : List α} {results : List β}

theorem exists_entry (h : entries.map f = results.map .ok) {b : β} (hb : b ∈ results) :
    ∃ a ∈ entries, f a = .ok b := by
  have hmem : Except.ok b ∈ entries.map f := h ▸ List.mem_map_of_mem hb
  exact List.mem_map.mp hmem

theorem exists_result (h : entries.map f = results.map .ok) {a : α} (ha : a ∈ entries) :
    ∃ b ∈ results, f a = .ok b := by
  have hmem : f a ∈ results.map .ok := h ▸ List.mem_map_of_mem ha
  obtain ⟨b, hb, heq⟩ := List.mem_map.mp hmem
  exact ⟨b, hb, heq.symm⟩

end Results

section First
variable {p : α → Prop} {entries : List α} {a : α}

/-- The entry is the first one of the list with a property. -/
def IsFirst (p : α → Prop) (entries : List α) (a : α) : Prop :=
  ∃ front back, entries = front ++ a :: back ∧ (∀ e ∈ front, ¬ p e) ∧ p a

theorem find?_not_eq_some_iff [DecidablePred p] :
    entries.find? (fun e => !decide (p e)) = some a ↔ IsFirst (fun e => ¬ p e) entries a := by
  rw [List.find?_eq_some_iff_append, IsFirst]
  constructor
  · rintro ⟨ha, front, back, rfl, hfront⟩
    exact ⟨front, back, rfl, by simpa using hfront, by simpa using ha⟩
  · rintro ⟨front, back, rfl, hfront, ha⟩
    exact ⟨by simpa using ha, front, back, rfl, by simpa using hfront⟩

end First

section FirstFault
variable {f : α → Except Fault β} {entries rest : List α} {a first : α} {b : β}
variable {fault cause : Fault}

/-- The entry is the first one for which the computation fails, and it fails with the fault. -/
def FirstFault (f : α → Except Fault β) (entries : List α) (a : α) (fault : Fault) : Prop :=
  ∃ front back, entries = front ++ a :: back ∧ (∀ e ∈ front, ∃ b, f e = .ok b) ∧
    f a = .error fault

theorem FirstFault.mem (h : FirstFault f entries a fault) : a ∈ entries ∧ f a = .error fault := by
  obtain ⟨front, back, rfl, -, ha⟩ := h
  exact ⟨by simp, ha⟩

theorem not_firstFault_nil : ¬ FirstFault f [] a fault := by
  rintro ⟨front, back, h, -⟩
  simp at h

theorem firstFault_cons_of_ok (h : f first = .ok b) :
    FirstFault f (first :: rest) a fault ↔ FirstFault f rest a fault := by
  constructor
  · rintro ⟨front, back, heq, hfront, ha⟩
    rcases List.cons_eq_append_iff.mp heq with ⟨rfl, hcons⟩ | ⟨others, rfl, hrest⟩
    · cases hcons
      simp [h] at ha
    · exact ⟨others, back, hrest, fun e he => hfront e (List.mem_cons_of_mem first he), ha⟩
  · rintro ⟨front, back, rfl, hfront, ha⟩
    exact ⟨first :: front, back, rfl, List.forall_mem_cons.mpr ⟨⟨b, h⟩, hfront⟩, ha⟩

theorem firstFault_cons_of_error (h : f first = .error cause) :
    FirstFault f (first :: rest) a fault ↔ a = first ∧ fault = cause := by
  constructor
  · rintro ⟨front, back, heq, hfront, ha⟩
    rcases List.cons_eq_append_iff.mp heq with ⟨rfl, hcons⟩ | ⟨others, rfl, -⟩
    · cases hcons
      rw [h] at ha
      exact ⟨rfl, (Except.error.inj ha).symm⟩
    · obtain ⟨b, hb⟩ := hfront first List.mem_cons_self
      simp [h] at hb
  · rintro ⟨rfl, rfl⟩
    exact ⟨[], rest, rfl, nofun, h⟩

theorem exists_firstFault_map_iff {γ : Type} {g : γ → α} {sources : List γ} :
    (∃ a, FirstFault f (sources.map g) a fault) ↔
      ∃ c, FirstFault (fun c => f (g c)) sources c fault := by
  constructor
  · rintro ⟨a, front, back, heq, hfront, ha⟩
    obtain ⟨sourceFront, rest, rfl, rfl, hrest⟩ := List.map_eq_append_iff.mp heq
    obtain ⟨c, sourceBack, rfl, rfl, rfl⟩ := List.map_eq_cons_iff.mp hrest
    exact ⟨c, sourceFront, sourceBack, rfl, fun e he => hfront (g e) (List.mem_map_of_mem he), ha⟩
  · rintro ⟨c, front, back, rfl, hfront, hc⟩
    refine ⟨g c, front.map g, back.map g, by simp, fun e he => ?_, hc⟩
    obtain ⟨source, hsource, rfl⟩ := List.mem_map.mp he
    exact hfront source hsource

/-- One step of a search that ends at the first entry that fails. -/
theorem bind_eq_error_iff_firstFault {γ δ : Type} {x : Except Fault γ} {next : γ → Except Fault δ}
    (hx : ∀ cause, x = .error cause ↔ f first = .error cause)
    (hnext : ∀ c, next c = .error fault ↔ ∃ a, FirstFault f rest a fault) :
    x >>= next = .error fault ↔ ∃ a, FirstFault f (first :: rest) a fault := by
  cases hstep : x with
  | error cause =>
    have hfirst : f first = .error cause := (hx cause).mp hstep
    simp only [firstFault_cons_of_error hfirst, exists_eq_left]
    constructor
    · intro h
      exact (Except.error.inj h).symm
    · rintro rfl
      rfl
  | ok c =>
    obtain ⟨b, hb⟩ : ∃ b, f first = .ok b := by
      cases hfirst : f first with
      | ok b => exact ⟨b, rfl⟩
      | error cause => cases hstep.symm.trans ((hx cause).mpr hfirst)
    simp only [firstFault_cons_of_ok hb]
    exact hnext c

/-- If an entry fails at all, then there is a first one that does. -/
theorem exists_firstFault (ha : a ∈ entries) (hfault : f a = .error fault) :
    ∃ first cause, FirstFault f entries first cause := by
  induction entries with
  | nil => cases ha
  | cons e rest ih =>
    cases he : f e with
    | error cause => exact ⟨e, cause, (firstFault_cons_of_error he).mpr ⟨rfl, rfl⟩⟩
    | ok b =>
      have hrest : a ∈ rest := by
        rcases List.mem_cons.mp ha with rfl | hrest
        · simp [hfault] at he
        · exact hrest
      obtain ⟨first, cause, hfirst⟩ := ih hrest
      exact ⟨first, cause, (firstFault_cons_of_ok he).mpr hfirst⟩

/-- Computations that agree but for the faults fail first at the same entry. -/
theorem FirstFault.of_mapError {g : α → Except Fault β} {rename : Fault → Fault}
    (hfault : FirstFault f entries a fault)
    (h : ∀ e, (f e).mapError rename = (g e).mapError rename) :
    ∃ reason, FirstFault g entries a reason ∧ rename fault = rename reason := by
  obtain ⟨front, back, rfl, hfront, ha⟩ := hfault
  rcases ok_or_error_of_mapError (h a) with ⟨b, hb, -⟩ | ⟨cause, reason, hcause, hreason, hsame⟩
  · cases hb.symm.trans ha
  · cases hcause.symm.trans ha
    refine ⟨reason, ⟨front, back, rfl, ?_, hreason⟩, hsame⟩
    intro e he
    obtain ⟨b, hb⟩ := hfront e he
    rcases ok_or_error_of_mapError (h e) with ⟨c, -, hc⟩ | ⟨cause, _, hcause, -, -⟩
    · exact ⟨c, hc⟩
    · cases hb.symm.trans hcause

end FirstFault

/-- A fault of the text, or a run of more digits than the limit but no more than `longest`. -/
def Fault.IsTextual (longest : Nat) : Fault → Prop
  | .parse _ => True
  | .digitLimit count => Text.digitLimit < count ∧ count ≤ longest
  | _ => False

end Crontab
