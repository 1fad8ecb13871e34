import Crontab.Proofs.Calendar.Zones
import Crontab.Proofs.Schedule.February
import Crontab.Proofs.Schedule.Validity

/-! # Which faults are reported

Faults of an expression, an instant or a zone name have a kind of their own, by
which they are recognized and reported. Two sorts of bad input end in other
faults: runs of digits beyond the limit, and instants outside the years 1 to 9999,
as they are given or on the clock of their zone. All other input is answered or
reported.
-/
namespace Crontab
variable {instant : Instant} {zone? : Option Text} {cause : CalendarError}

namespace CalendarError

/-- The instant is not understood, or the zone is not known. -/
def IsReported (cause : CalendarError) : Prop :=
  (Fault.calendar cause).isCronFault = true

instance (cause : CalendarError) : Decidable cause.IsReported :=
  inferInstanceAs (Decidable (_ = _))

end CalendarError

namespace Timestamp
open Moment

theorem not_isReported_of_moment {seconds microseconds : Int}
    (h : moment seconds microseconds = .error cause) : ¬ cause.IsReported := by
  simp only [moment, guarded_eq_error_iff] at h
  rcases h with ⟨-, rfl⟩ | ⟨-, ⟨-, rfl⟩ | ⟨-, ⟨-, rfl⟩ | ⟨-, h⟩⟩⟩
  · exact Bool.false_ne_true
  · exact Bool.false_ne_true
  · exact Bool.false_ne_true
  · cases h

theorem not_isReported_of_binary64 {x : Binary64} (h : ofBinary64 x = .error cause) :
    ¬ cause.IsReported := by
  cases x with
  | nan =>
    cases h
    exact Bool.false_ne_true
  | infinite negative =>
    cases h
    exact Bool.false_ne_true
  | finite negative mantissa exponent =>
    simp only [ofBinary64] at h
    repeat' split at h
    all_goals exact not_isReported_of_moment h

/-- Whole seconds have a moment exactly in the years 1 to 9999. -/
theorem moment_eq_ok_iff {n : Int} :
    (∃ m, moment n 0 = .ok m) ↔ IsWithinYears (n * secondMicroseconds) := by
  simp only [moment_eq_ok_iff_shown, Int.add_zero]
  constructor
  · rintro ⟨m, hproper, -, hcount, -⟩
    exact hcount ▸ isWithinYears_localMicroseconds hproper
  · intro hyears
    have hfirst : Gregorian.dayNumber ⟨1, 1, 1⟩ * dayMicroseconds = -62135596800000000 := by decide
    have hend : Gregorian.dayNumber ⟨10000, 1, 1⟩ * dayMicroseconds = 253402300800000000 := by
      decide
    have hwithin := hyears
    rw [IsWithinYears, hfirst, hend, secondMicroseconds] at hwithin
    refine ⟨ofLocalMicroseconds (n * secondMicroseconds) (some 0),
      isProper_ofLocalMicroseconds _ hyears, rfl, localMicroseconds_ofLocalMicroseconds _ _, ?_⟩
    rw [limit]
    omega

end Timestamp

theorem IsoText.eq_malformed_of_read {t : Text} (h : IsoText.read t = .error cause) :
    cause = .malformedInstant t := by
  unfold IsoText.read at h
  split at h
  · cases h
    rfl
  · split at h
    · cases h
    · cases h
      rfl

namespace Instant
variable {zones : ZoneTable}

/-- The instant is a timestamp that is no moment of the years 1 to 9999, or no instant at all and
not to be shown, or its zone is known and universal time or the clock of the zone is outside of
these years. A datetime that carries the zone is not converted to it. -/
inductive Escapes (zones : ZoneTable) : Instant → Option Text → Prop
  | timestamp {n : Int} {zone? : Option Text}
    (h : ¬ Moment.IsWithinYears (n * Moment.secondMicroseconds)) :
    Escapes zones (.value (.int n)) zone?
  | fractional {x : Binary64} {zone? : Option Text} {cause : CalendarError}
    (h : Timestamp.ofBinary64 x = .error cause) : Escapes zones (.value (.float x)) zone?
  | unwritable {v : Value} {zone? : Option Text} (hint : ∀ n, v ≠ .int n)
    (h : v.isWritable = false) : Escapes zones (.value v) zone?
  | clock {instant : Instant} {m : Moment} {name : Text} {offsetAt : Int → Int}
    (hmoment : instant.toMoment = .ok m) (hzone : zones name = some offsetAt)
    (hown : instant.ownZone? ≠ some name)
    (h : ¬ (Moment.IsWithinYears m.universalMicroseconds ∧
      Moment.IsWithinYears (m.universalMicroseconds +
        offsetAt (m.universalMicroseconds / Moment.secondMicroseconds) *
          Moment.secondMicroseconds))) :
    Escapes zones instant (some name)

/-- A value that is neither a text nor a number denotes no moment. It is reported if it can be
shown. -/
theorem toMoment_of_isWritable {v : Value} (h : (value v).toMoment = .error cause)
    (hwritable : v.isWritable = true) (hint : ∀ n, v ≠ .int n) (hfloat : ∀ x, v ≠ .float x) :
    cause.IsReported := by
  cases v with
  | text t =>
    rw [IsoText.eq_malformed_of_read h]
    rfl
  | int n => exact absurd rfl (hint n)
  | float x => exact absurd rfl (hfloat x)
  | _ =>
    simp only [toMoment, hwritable, if_true] at h
    cases h
    rfl

theorem toMoment_of_unwritable {v : Value} (hint : ∀ n, v ≠ .int n)
    (h : v.isWritable = false) : (value v).toMoment = .error .unwritableInstant := by
  cases v with
  | int n => exact absurd rfl (hint n)
  | list items =>
    simp only [toMoment, h]
    rfl
  | map entries =>
    simp only [toMoment, h]
    rfl
  | _ => cases h

/-- An instant that denotes no moment is reported, unless it escapes. -/
theorem isReported_of_toMoment (h : instant.toMoment = .error cause)
    (hstays : ¬ instant.Escapes zones zone?) : cause.IsReported := by
  cases instant with
  | moment m own? => cases h
  | value v =>
    cases v with
    | int n =>
      refine absurd (Escapes.timestamp fun hyears => ?_) hstays
      obtain ⟨m, hm⟩ := Timestamp.moment_eq_ok_iff.mpr hyears
      rw [toMoment, hm] at h
      cases h
    | float x => exact absurd (Escapes.fractional h) hstays
    | _ =>
      refine toMoment_of_isWritable h ?_ nofun nofun
      by_contra hwritable
      exact hstays (.unwritable nofun (Bool.eq_false_iff.mpr hwritable))

theorem partsIn_of_toMoment_error (h : instant.toMoment = .error cause) :
    instant.partsIn zones zone? = .error cause := by
  rw [partsIn, h]
  rfl

/-- An instant that escapes has no calendar parts, and the reason is not reported. -/
theorem Escapes.exists_unreported (h : instant.Escapes zones zone?) :
    ∃ cause, instant.partsIn zones zone? = .error cause ∧ ¬ cause.IsReported := by
  cases h with
  | @timestamp n _ h =>
    cases hmoment : Timestamp.moment n 0 with
    | ok m => exact absurd (Timestamp.moment_eq_ok_iff.mp ⟨m, hmoment⟩) h
    | error cause =>
      exact ⟨cause, partsIn_of_toMoment_error hmoment, Timestamp.not_isReported_of_moment hmoment⟩
  | fractional h =>
    exact ⟨_, partsIn_of_toMoment_error h, Timestamp.not_isReported_of_binary64 h⟩
  | unwritable hint h =>
    exact ⟨_, partsIn_of_toMoment_error (toMoment_of_unwritable hint h), Bool.false_ne_true⟩
  | clock hmoment hzone hown h =>
    refine ⟨.dateOutOfRange, ?_, Bool.false_ne_true⟩
    rw [partsIn_of_toMoment hmoment, shownIn_known hzone, if_neg hown, map_eq_error_iff]
    exact Moment.onClock_eq_error_iff.mpr ⟨rfl, h⟩

theorem isReported_of_partsIn (h : instant.partsIn zones zone? = .error cause)
    (hstays : ¬ instant.Escapes zones zone?) : cause.IsReported := by
  cases hmoment : instant.toMoment with
  | error other =>
    rw [partsIn_of_toMoment_error hmoment] at h
    cases h
    exact isReported_of_toMoment hmoment hstays
  | ok m =>
    rw [partsIn_of_toMoment hmoment, map_eq_error_iff] at h
    cases zone? with
    | none => cases h
    | some name =>
      cases hzone : zones name with
      | none =>
        rw [shownIn_unknown hzone] at h
        cases h
        rfl
      | some offsetAt =>
        rw [shownIn_known hzone] at h
        split at h
        · cases h
        · next hown =>
          obtain ⟨-, hyears⟩ := Moment.onClock_eq_error_iff.mp h
          exact absurd (Escapes.clock hmoment hzone hown hyears) hstays

/-- Calendar parts are found, or the reason is reported, exactly for instants that do not escape. -/
theorem partsIn_isReported_iff :
    (∀ cause, instant.partsIn zones zone? = .error cause → cause.IsReported) ↔
      ¬ instant.Escapes zones zone? := by
  constructor
  · intro hreported hescapes
    obtain ⟨cause, hcause, hunreported⟩ := hescapes.exists_unreported
    exact hunreported (hreported cause hcause)
  · intro hstays cause hcause
    exact isReported_of_partsIn hcause hstays

end Instant

namespace Schedule

/-- An expression is refused by a fault that is reported, or for a run of digits beyond the
limit. -/
theorem compileValue_outcome (expression : Value) :
    Outcome
      (fun fault => (∃ cause, fault = .parse cause) ∨
        ∃ count, Text.digitLimit < count ∧ fault = .digitLimit count)
      (fun _ => True) (compileValue expression) := by
  cases expression with
  | text t =>
    have houtcome := compile_outcome fun f : Field =>
      Column.compile_textual f.span_bounds ((splitExpression t).get f)
    refine houtcome.imp (fun fault hfault => ?_) fun _ _ => trivial
    obtain ⟨longest, hfault⟩ := hfault
    cases fault with
    | parse cause => exact Or.inl ⟨cause, rfl⟩
    | digitLimit count => exact Or.inr ⟨count, hfault.1, rfl⟩
    | _ => exact hfault.elim
  | _ => exact Or.inl ⟨_, rfl⟩

/-- Runs of digits beyond the limit occur in texts with a long word only. -/
theorem exists_long_word_of_digitLimit {expression : Value} {count : Nat}
    (h : compileValue expression = .error (.digitLimit count)) :
    ∃ t, expression = .text t ∧ ∃ word ∈ Text.words t, safeLength < word.length := by
  by_contra hnone
  have hshort : ∀ t, expression = .text t → ∀ word ∈ Text.words t, word.length ≤ safeLength := by
    intro t ht word hword
    by_contra hlong
    exact hnone ⟨t, ht, word, hword, Nat.lt_of_not_le hlong⟩
  obtain ⟨cause, hcause⟩ := (compileValue_outcome_of_short hshort).of_eq_error h
  cases hcause

/-- A schedule is compared without a fault that is not reported exactly if the instant does not
escape. -/
theorem matchesInstant_reported_iff (zones : ZoneTable) (s : Schedule) :
    (∀ fault, s.matchesInstant (zonedProvider zones) instant zone? = .error fault →
        fault.isCronFault = true) ↔ ¬ instant.Escapes zones zone? := by
  rw [← Instant.partsIn_isReported_iff]
  unfold matchesInstant zonedProvider
  cases instant.partsIn zones zone? with
  | error cause =>
    constructor
    · intro h other hother
      cases hother
      exact h (.calendar cause) rfl
    · intro h fault hfault
      cases hfault
      exact h cause rfl
  | ok parts =>
    refine iff_of_true (fun fault hfault => ?_) nofun
    obtain ⟨-, -, last, -, -, rfl⟩ :=
      checkCalendar_eq_error_iff.mp (matchesParts_eq_error_iff.mp hfault)
    rfl

end Schedule

/-- All that goes wrong when an expression is compared with an instant is reported, unless the
expression has a run of digits beyond the limit, for which a word must be longer than a thousand
characters, or it compiles and the instant escapes: it leaves the calendar or cannot be shown. -/
theorem cronMatches_reported_iff (zones : ZoneTable) (expression : Value) (instant : Instant)
    (zone? : Option Text) :
    ((∀ fault, cronMatches (zonedProvider zones) expression instant zone? = .error fault →
        fault.isCronFault = true) ↔
      (∀ count, Schedule.compileValue expression ≠ .error (.digitLimit count)) ∧
        ∀ s, Schedule.compileValue expression = .ok s → ¬ instant.Escapes zones zone?) ∧
      ∀ count, Schedule.compileValue expression = .error (.digitLimit count) →
        ∃ t, expression = .text t ∧ ∃ word ∈ Text.words t, 1000 < word.length := by
  refine ⟨?_, fun count h => Schedule.exists_long_word_of_digitLimit h⟩
  have houtcome := Schedule.compileValue_outcome expression
  unfold cronMatches
  cases hcompile : Schedule.compileValue expression with
  | ok s =>
    have hmatches : (∀ fault, s.matchesInstant (zonedProvider zones) instant zone? =
        .error fault → fault.isCronFault = true) ↔ ¬ instant.Escapes zones zone? :=
      s.matchesInstant_reported_iff zones
    constructor
    · intro h
      refine ⟨nofun, fun other hother => ?_⟩
      cases hother
      exact hmatches.mp h
    · exact fun h => hmatches.mpr (h.2 s rfl)
  | error fault =>
    rcases houtcome.of_eq_error hcompile with ⟨cause, rfl⟩ | ⟨count, -, rfl⟩
    · refine iff_of_true (fun fault hfault => ?_) ⟨nofun, nofun⟩
      cases hfault
      rfl
    · refine iff_of_false (fun h => ?_) fun h => h.1 count rfl
      exact Bool.false_ne_true (h (.digitLimit count) rfl)

theorem cronMatches_reported_officeHours :
    (∀ fault, cronMatches (zonedProvider Zone.known) (.text Schedule.officeHours.source)
        (.value .null) none = .error fault → fault.isCronFault = true) ∧
      ¬ ∀ fault, cronMatches (zonedProvider Zone.known) (.text Schedule.officeHours.source)
        (.value (.int 253402300800)) none = .error fault → fault.isCronFault = true := by
  have hcompile := Schedule.compile_officeHours
  constructor
  · refine (cronMatches_reported_iff Zone.known _ _ _).1.mpr
      ⟨fun count h => ?_, fun s hs hescapes => ?_⟩
    · cases hcompile.symm.trans h
    · cases hescapes with
      | unwritable hint h => cases h
  · intro h
    have hstays := ((cronMatches_reported_iff Zone.known _ _ _).1.mp h).2 _ hcompile
    exact hstays (.timestamp (by decide))

/-- The first second of the year 10000 is neither answered nor reported, whatever the zones are, and
neither is the last one of 9999 on a clock ahead of universal time. -/
theorem cronMatches_not_always_reported :
    cronMatches (zonedProvider Zone.known) (.text "0 30 9-17 * * mon-fri".toList)
        (.value (.text "9999-12-31T23:59:59Z".toList)) (some "Asia/Tokyo".toList) =
      .error (.calendar .dateOutOfRange) ∧
    ∀ zones : ZoneTable,
      cronMatches (zonedProvider zones) (.text "0 30 9-17 * * mon-fri".toList)
          (.value (.int 253402300800)) none = .error (.calendar (.yearOutOfRange 10000)) ∧
        ¬ ∀ (expression : Value) (instant : Instant) (zone? : Option Text),
          (∃ due, cronMatches (zonedProvider zones) expression instant zone? = .ok due) ∨
            ∃ fault, cronMatches (zonedProvider zones) expression instant zone? = .error fault ∧
              fault.isCronFault = true := by
  refine ⟨by rfl, fun zones => ?_⟩
  have hyear : cronMatches (zonedProvider zones) (.text "0 30 9-17 * * mon-fri".toList)
      (.value (.int 253402300800)) none = .error (.calendar (.yearOutOfRange 10000)) := by
    rfl
  refine ⟨hyear, fun h => ?_⟩
  rcases h (.text "0 30 9-17 * * mon-fri".toList) (.value (.int 253402300800)) none with
    ⟨due, hdue⟩ | ⟨fault, hfault, hreported⟩
  · cases hyear.symm.trans hdue
  · cases hyear.symm.trans hfault
    exact Bool.false_ne_true hreported

end Crontab
