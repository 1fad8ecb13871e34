import Crontab.Calendar.Zone
import Crontab.Proofs.Calendar.Moments
import Crontab.Schedule.Match

/-! # Clocks of zones

Nothing is used of a zone but its offset at every second of universal time, so
statements are made for any table of zones; the program's own is one of them. Main
statement: two datetimes of one instant have the same parts on every such clock,
and without a zone the parts are the fields of the datetime.

A datetime that carries a zone is not converted to that zone. So it counts as what
the clock of the zone shows, which a local time that the clock skips is not.
-/
namespace Crontab

namespace Moment
variable {a b m shown : Moment} {offsetAt : Int → Int} {zones : ZoneTable} {zone? : Option Text}

/-- What a clock shows at the instant of a moment: the moment of the same instant that carries the
offset of the clock. The instant is in the years 1 to 9999 on the clock and in universal time. -/
structure IsOnClock (offsetAt : Int → Int) (m shown : Moment) : Prop where
  proper : shown.IsProper
  offset : shown.offset? =
    some (offsetAt (m.countedMicroseconds / secondMicroseconds) * secondMicroseconds)
  same : shown.countedMicroseconds = m.countedMicroseconds
  years : IsWithinYears m.countedMicroseconds

theorem onClock_eq_ok_iff (hproper : m.IsProper) :
    m.onClock offsetAt = .ok shown ↔ IsOnClock offsetAt m shown := by
  unfold onClock
  simp only [guarded_eq_ok_iff, pure_eq_ok_iff, isInCalendar_iff,
    universalMicroseconds_eq_counted hproper]
  obtain ⟨offset, hoffset⟩ : ∃ n, n = offsetAt (m.countedMicroseconds / secondMicroseconds) *
      secondMicroseconds := ⟨_, rfl⟩
  rw [← hoffset]
  constructor
  · rintro ⟨hyears, hlocal, rfl⟩
    have hshown := isProper_ofLocalMicroseconds (some offset) hlocal
    refine ⟨hshown, congrArg some hoffset, ?_, hyears⟩
    rw [← universalMicroseconds_eq_counted hshown, universalMicroseconds,
      localMicroseconds_ofLocalMicroseconds]
    exact Int.add_sub_cancel m.countedMicroseconds offset
  · rintro ⟨hshown, hcarried, hsame, hyears⟩
    rw [← hoffset] at hcarried
    rw [← universalMicroseconds_eq_counted hshown, universalMicroseconds, hcarried,
      Option.getD_some] at hsame
    have hlocal : shown.localMicroseconds = m.countedMicroseconds + offset := by omega
    refine ⟨hyears, hlocal ▸ isWithinYears_localMicroseconds hshown, ?_⟩
    rw [← hlocal, ← hcarried, ofLocalMicroseconds_localMicroseconds hshown]

theorem onClock_eq_error_iff {cause : CalendarError} : m.onClock offsetAt = .error cause ↔
    cause = .dateOutOfRange ∧ ¬ (IsWithinYears m.universalMicroseconds ∧
      IsWithinYears (m.universalMicroseconds +
        offsetAt (m.universalMicroseconds / secondMicroseconds) * secondMicroseconds)) := by
  simp only [onClock, guarded_eq_error_iff, pure_ne_error, isInCalendar_iff, and_false, or_false]
  tauto

theorem onClock_congr (h : a.universalMicroseconds = b.universalMicroseconds) :
    a.onClock offsetAt = b.onClock offsetAt := by
  unfold onClock
  rw [h]

/-- If the datetime carries the named zone, then it is what the clock of the zone shows at its
instant. -/
def IsLocalTime (zones : ZoneTable) (name : Text) (m : Moment) (own? : Option Text) : Prop :=
  own? = some name → ∀ offsetAt, zones name = some offsetAt → IsOnClock offsetAt m m

end Moment

namespace Instant
variable {zones : ZoneTable} {zone? : Option Text} {instant : Instant} {p : Parts}
  {m shown : Moment} {own? : Option Text} {name : Text} {offsetAt : Int → Int}

theorem shownIn_unknown (hzone : zones name = none) :
    instant.shownIn zones (some name) m = .error (.unknownZone name) := by
  simp only [shownIn, hzone]
  rfl

theorem shownIn_known (hzone : zones name = some offsetAt) :
    instant.shownIn zones (some name) m =
      if instant.ownZone? = some name then .ok m else m.onClock offsetAt := by
  simp only [shownIn, hzone]
  rfl

/-- A local time of the zone is left as it is, and a conversion would leave it so too. -/
theorem shownIn_of_isLocalTime (hproper : m.IsProper) (h : m.IsLocalTime zones name own?)
    (hzone : zones name = some offsetAt) :
    (moment m own?).shownIn zones (some name) m = m.onClock offsetAt := by
  rw [shownIn_known hzone]
  split
  · next hown => exact ((Moment.onClock_eq_ok_iff hproper).mpr (h hown offsetAt hzone)).symm
  · rfl

theorem isProper_of_shownIn (hproper : m.IsProper)
    (h : instant.shownIn zones zone? m = .ok shown) : shown.IsProper := by
  cases zone? with
  | none =>
    cases h
    exact hproper
  | some name =>
    cases hzone : zones name with
    | none =>
      rw [shownIn_unknown hzone] at h
      cases h
    | some offsetAt =>
      rw [shownIn_known hzone] at h
      split at h
      · cases h
        exact hproper
      · exact ((Moment.onClock_eq_ok_iff hproper).mp h).proper

theorem partsIn_eq_ok_iff : instant.partsIn zones zone? = .ok p ↔
    ∃ m shown, instant.toMoment = .ok m ∧ instant.shownIn zones zone? m = .ok shown ∧
      Parts.ofMoment shown = p := by
  simp only [partsIn, bind_eq_ok_iff, pure_eq_ok_iff, exists_and_left]

theorem partsIn_of_toMoment (hmoment : instant.toMoment = .ok m) :
    instant.partsIn zones zone? = Parts.ofMoment <$> instant.shownIn zones zone? m := by
  rw [partsIn, hmoment]
  rfl

/-- The parts of a datetime on the clock of a zone. -/
theorem partsIn_of_isLocalTime (hproper : m.IsProper) (h : m.IsLocalTime zones name own?)
    (hzone : zones name = some offsetAt) :
    (moment m own?).partsIn zones (some name) = Parts.ofMoment <$> m.onClock offsetAt := by
  rw [partsIn_of_toMoment rfl, shownIn_of_isLocalTime hproper h hzone]

/-- In a known zone that a datetime carries its parts are those without a zone. -/
theorem partsIn_ownZone (hown : own? = some name) (hzone : zones name ≠ none) :
    (moment m own?).partsIn zones (some name) = (moment m own?).partsIn zones none := by
  obtain ⟨offsetAt, hoffset⟩ := Option.ne_none_iff_exists'.mp hzone
  rw [partsIn_of_toMoment rfl, partsIn_of_toMoment rfl, shownIn_known hoffset]
  exact congrArg _ (if_pos hown)

theorem partsIn_unknown (own? : Option Text) (hzone : zones name = none) :
    (moment m own?).partsIn zones (some name) = .error (.unknownZone name) := by
  rw [partsIn_of_toMoment rfl, shownIn_unknown hzone, map_eq_error_iff]

end Instant

/-- Half past eleven in the last night of 2019, and the same instant on a clock nine hours ahead. -/
def lastNight : Moment := ⟨⟨2019, 12, 31⟩, 23, 30, 0, 0, none⟩

def newYearMorning : Moment := ⟨⟨2020, 1, 1⟩, 8, 30, 0, 0, some 32400000000⟩

/-- Half past two in Paris in the night in which its clocks go forward from two to three. It carries
the offset of the winter. -/
def skippedTime : Moment := ⟨⟨2021, 3, 28⟩, 2, 30, 0, 0, some 3600000000⟩

example : (Instant.moment skippedTime (some "Europe/Paris".toList)).partsIn Zone.known
    (some "Europe/Paris".toList) = .ok ⟨2021, 2, 28, 0, 2, 30, 0, 0⟩ := by
  rfl

example : (Instant.moment skippedTime none).partsIn Zone.known (some "Europe/Paris".toList) =
    .ok ⟨2021, 2, 28, 0, 3, 30, 0, 0⟩ := by
  rfl

end Crontab
