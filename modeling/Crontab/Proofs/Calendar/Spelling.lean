import Crontab.Proofs.Calendar.Zones
import Crontab.Proofs.Schedule.Reporting

/-! # Writing an instant

A moment of universal time is written with a date, a time of day and one of three
marks of universal time, and read back with any blanks around it. Main statement:
the text of a timestamp and the timestamp itself have the same parts, or the same
fault, on every clock.
-/
namespace Crontab

namespace Text
variable {c : Char} {width n : Nat}

/-- The last digits of a number, as many as the width says. -/
def padded : Nat → Nat → Text
  | 0, _ => []
  | width + 1, n => padded width (n / 10) ++ [Nat.digitChar (n % 10)]

@[simp] theorem length_padded (width n : Nat) : (padded width n).length = width := by
  induction width generalizing n with
  | zero => rfl
  | succ width ih => simp [padded, ih]

theorem isAsciiDigit_digitChar (h : n < 10) : isAsciiDigit (Nat.digitChar n) = true := by
  have all : ∀ d ∈ List.range 10, isAsciiDigit (Nat.digitChar d) = true := by decide
  exact all n (List.mem_range.mpr h)

theorem isAsciiDigit_of_mem_padded (h : c ∈ padded width n) : isAsciiDigit c = true := by
  induction width generalizing n with
  | zero => cases h
  | succ width ih =>
    rw [padded, List.mem_append, List.mem_singleton] at h
    rcases h with h | rfl
    · exact ih h
    · exact isAsciiDigit_digitChar (Nat.mod_lt n (by decide))

/-- A number that the width has room for is read back. -/
theorem value_padded (h : n < 10 ^ width) : value (padded width n) = n := by
  induction width generalizing n with
  | zero =>
    have hn : n = 0 := by simpa using h
    rw [hn]
    rfl
  | succ width ih =>
    have hrest : n / 10 < 10 ^ width := by
      rw [Nat.pow_succ] at h
      omega
    rw [padded, value_concat, ih hrest, digitValue?_digitChar (Nat.mod_lt n (by decide)),
      Option.getD_some]
    omega

/-- Blanks around a text are taken off, up to its first and its last character. -/
theorem trimmed_surrounded {before after front rest : Text} {first last : Char}
    (hbefore : ∀ c ∈ before, isBlank c = true) (hafter : ∀ c ∈ after, isBlank c = true)
    (hfirst : isBlank first = false) (hlast : isBlank last = false)
    (hends : first :: rest = front ++ [last]) :
    trimmed (before ++ first :: rest ++ after) = first :: rest := by
  have hback : ∀ c ∈ after.reverse, isBlank c = true := by simpa using hafter
  rw [trimmed, trimmedOf, List.append_assoc, List.dropWhile_append_of_pos hbefore,
    List.cons_append, List.dropWhile_cons_of_neg (by simp [hfirst]), ← List.cons_append,
    List.reverse_append, List.dropWhile_append_of_pos hback, hends, List.reverse_concat,
    List.dropWhile_cons_of_neg (by simp [hlast]), ← List.reverse_concat, List.reverse_reverse]

theorem digit_ne_of_not_isAsciiDigit {d : Char} (hd : isAsciiDigit d = false) (n : Nat) :
    Nat.digitChar (n % 10) ≠ d := by
  intro h
  have hdigit := isAsciiDigit_digitChar (Nat.mod_lt n (show 0 < 10 by decide))
  rw [h, hd] at hdigit
  exact Bool.false_ne_true hdigit

theorem not_isBlank_digitChar (n : Nat) : isBlank (Nat.digitChar (n % 10)) = false := by
  have all : ∀ d ∈ List.range 10, isBlank (Nat.digitChar d) = false := by decide
  exact all _ (List.mem_range.mpr (Nat.mod_lt n (by decide)))

end Text

namespace IsoText
open Text
variable {m : Moment}

theorem digits?_padded {width n : Nat} (h : n < 10 ^ width) (rest : Text) :
    digits? width (padded width n ++ rest) = some ((n : Int), rest) := by
  have htake : (padded width n ++ rest).take width = padded width n :=
    List.take_left' (length_padded width n)
  have hdrop : (padded width n ++ rest).drop width = rest :=
    List.drop_left' (length_padded width n)
  have hall : (padded width n).all isAsciiDigit = true :=
    List.all_eq_true.mpr fun c hc => isAsciiDigit_of_mem_padded hc
  simp [digits?, htake, hdrop, hall, value_padded h]

def dateText (date : Date) : Text :=
  padded 4 date.year.toNat ++ '-' :: (padded 2 date.month.toNat ++ '-' :: padded 2 date.day.toNat)

def clockText (m : Moment) : Text :=
  padded 2 m.hour.toNat ++ ':' :: (padded 2 m.minute.toNat ++ ':' :: padded 2 m.second.toNat)

/-- The date and the time of day to the second, separated by a letter. -/
def momentText (m : Moment) : Text :=
  dateText m.date ++ 'T' :: clockText m

theorem dateLength?_dateText (date : Date) (rest : Text) :
    dateLength? (dateText date ++ 'T' :: rest) = some 10 := by
  have hlength : (dateText date ++ 'T' :: rest).length ≠ 7 := by
    simp [dateText]
    omega
  have hdash : (dateText date ++ 'T' :: rest)[4]? = some '-' := rfl
  have hmonth : (dateText date ++ 'T' :: rest)[5]? ≠ some 'W' := by
    intro h
    exact digit_ne_of_not_isAsciiDigit rfl _ (Option.some.inj h)
  simp only [dateLength?, if_neg hlength, if_pos hdash, if_neg hmonth]

theorem digits?_two {n : Int} (hn : 0 ≤ n ∧ n ≤ 99) (rest : Text) :
    digits? 2 (padded 2 n.toNat ++ rest) = some (n, rest) := by
  have hsmall : n.toNat < 10 ^ 2 := by omega
  rw [digits?_padded hsmall, Int.toNat_of_nonneg hn.1]

theorem readDate?_dateText {date : Date} (hproper : date.IsProper)
    (hyear : 1 ≤ date.year ∧ date.year ≤ 9999) : readDate? (dateText date) = some date := by
  obtain ⟨hmonth, hday⟩ := hproper
  have hlength := Gregorian.monthLength_le date.year hmonth
  have hsmall : date.year.toNat < 10 ^ 4 := by omega
  have hreadYear := digits?_padded hsmall
    ('-' :: (padded 2 date.month.toNat ++ '-' :: padded 2 date.day.toNat))
  have hreadMonth := digits?_two (show 0 ≤ date.month ∧ date.month ≤ 99 by omega)
    ('-' :: padded 2 date.day.toNat)
  have hreadDay := digits?_two (show 0 ≤ date.day ∧ date.day ≤ 99 by omega) []
  rw [List.append_nil] at hreadDay
  rw [Int.toNat_of_nonneg (by omega)] at hreadYear
  simp only [readDate?, dateText, hreadYear, Option.bind_eq_bind, Option.bind_some]
  split
  · next rest hweek =>
    exact absurd (List.cons.inj hweek).1 (digit_ne_of_not_isAsciiDigit rfl _)
  · simp [hreadMonth, hreadDay, expect?]

section Units
variable {t rest : Text} {n : Int} {count : Nat}

theorem readUnits?_colon (hn : digits? 2 t = some (n, ':' :: rest)) (hrest : rest ≠ []) :
    readUnits? true (count + 1) t =
      (readUnits? true count rest).map fun (units, last) => (n :: units, last) := by
  obtain ⟨c, rest, rfl⟩ := List.exists_cons_of_ne_nil hrest
  simp [readUnits?, hn, follows]
  cases readUnits? true count (c :: rest) with
  | none => rfl
  | some read => rfl

theorem readUnits?_end (hn : digits? 2 t = some (n, [])) :
    readUnits? true (count + 1) t = some ([n], 0, true) := by
  simp [readUnits?, hn, follows]

end Units

theorem readClock?_clockText (hproper : m.IsProper) :
    readClock? (clockText m) = some ⟨m.hour, m.minute, m.second, 0, true⟩ := by
  obtain ⟨-, -, hhour, hminute, hsecond, -⟩ := hproper
  have hreadSecond := digits?_two (show 0 ≤ m.second ∧ m.second ≤ 99 by omega) []
  rw [List.append_nil] at hreadSecond
  have hreadMinute := digits?_two (show 0 ≤ m.minute ∧ m.minute ≤ 99 by omega)
    (':' :: padded 2 m.second.toNat)
  have hreadHour := digits?_two (show 0 ≤ m.hour ∧ m.hour ≤ 99 by omega)
    (':' :: (padded 2 m.minute.toNat ++ ':' :: padded 2 m.second.toNat))
  have hcolon : (clockText m)[2]? = some ':' := rfl
  have hunits : readUnits? true 3 (clockText m) =
      some ([m.hour, m.minute, m.second], 0, true) := by
    rw [clockText, readUnits?_colon hreadHour (by simp [padded]),
      readUnits?_colon hreadMinute (by simp [padded]), readUnits?_end hreadSecond]
    rfl
  simp [readClock?, hcolon, hunits]

theorem not_isOffsetMark_of_mem_clockText {c : Char} (h : c ∈ clockText m) :
    isOffsetMark c = false := by
  have hdigit (c : Char) (hc : isAsciiDigit c = true) : isOffsetMark c = false := by
    simp only [isOffsetMark, Bool.or_eq_false_iff, decide_eq_false_iff_not]
    refine ⟨⟨?_, ?_⟩, ?_⟩ <;> rintro rfl <;> cases hc
  simp only [clockText, List.mem_append, List.mem_cons] at h
  rcases h with h | rfl | h | rfl | h
  · exact hdigit c (isAsciiDigit_of_mem_padded h)
  · rfl
  · exact hdigit c (isAsciiDigit_of_mem_padded h)
  · rfl
  · exact hdigit c (isAsciiDigit_of_mem_padded h)

/-- The offset of universal time, as it is read. -/
def zeroOffset : Text :=
  ['+', '0', '0', ':', '0', '0']

theorem readTime?_clockText (hproper : m.IsProper) (date : Date) :
    readTime? date (clockText m ++ zeroOffset) =
      some ⟨date, m.hour, m.minute, m.second, 0, some 0⟩ := by
  have hclock : ∀ c ∈ clockText m, (!isOffsetMark c) = true := by
    intro c hc
    rw [not_isOffsetMark_of_mem_clockText hc]
    rfl
  have htake : (clockText m ++ zeroOffset).takeWhile (fun c => !isOffsetMark c) = clockText m := by
    rw [List.takeWhile_append_of_pos hclock]
    exact List.append_nil _
  have hdrop : (clockText m ++ zeroOffset).dropWhile (fun c => !isOffsetMark c) = zeroOffset := by
    rw [List.dropWhile_append_of_pos hclock]
    rfl
  have hoffset : readOffset? zeroOffset = some 0 := by decide +kernel
  have hsome : zeroOffset.isEmpty = false := rfl
  simp [readTime?, htake, hdrop, hoffset, hsome, readClock?_clockText hproper]

theorem readMoment?_momentText (hproper : m.IsProper) :
    readMoment? (momentText m ++ zeroOffset) =
      some { m with microsecond := 0, offset? := some 0 } := by
  have hdate : (dateText m.date).length = 10 := by simp [dateText]
  have hlength : 7 ≤ (momentText m).length + zeroOffset.length := by
    simp only [momentText, List.length_append, hdate]
    omega
  have hwhole : momentText m ++ zeroOffset =
      dateText m.date ++ 'T' :: (clockText m ++ zeroOffset) := by
    simp [momentText]
  have htake : (momentText m ++ zeroOffset).take 10 = dateText m.date := by
    rw [hwhole]
    exact List.take_left' hdate
  have hdrop : (momentText m ++ zeroOffset).drop 10 = 'T' :: (clockText m ++ zeroOffset) := by
    rw [hwhole]
    exact List.drop_left' hdate
  have hform : dateLength? (momentText m ++ zeroOffset) = some 10 := by
    rw [hwhole]
    exact dateLength?_dateText m.date _
  simp [readMoment?, hlength, hform, htake, hdrop, readDate?_dateText hproper.date hproper.year,
    readTime?_clockText hproper]

/-- The marks of universal time after a time of day. -/
def universalMarks : List Text :=
  [['Z'], ['z'], zeroOffset]

/-- The text is that of the moment in universal time, with a mark behind it and blanks around it. -/
def IsSpelling (m : Moment) (t : Text) : Prop :=
  ∃ before after mark : Text, (∀ c ∈ before, isBlank c = true) ∧ (∀ c ∈ after, isBlank c = true) ∧
    mark ∈ universalMarks ∧ t = before ++ (momentText m ++ mark) ++ after

theorem withoutZulu_append {mark : Text} (hmark : mark ∈ universalMarks) (t : Text) :
    withoutZulu (t ++ mark) = t ++ zeroOffset := by
  simp only [universalMarks, List.mem_cons, List.not_mem_nil, or_false] at hmark
  rcases hmark with rfl | rfl | rfl <;> simp [withoutZulu, zeroOffset]

theorem trimmed_momentText {before after mark : Text} (hmark : mark ∈ universalMarks)
    (hbefore : ∀ c ∈ before, isBlank c = true) (hafter : ∀ c ∈ after, isBlank c = true) :
    trimmed (before ++ (momentText m ++ mark) ++ after) = momentText m ++ mark := by
  obtain ⟨n, rest, hhead⟩ : ∃ n rest, momentText m ++ mark = Nat.digitChar (n % 10) :: rest :=
    ⟨_, _, rfl⟩
  obtain ⟨front, last, hend, hlast⟩ : ∃ front last,
      momentText m ++ mark = front ++ [last] ∧ isBlank last = false := by
    simp only [universalMarks, List.mem_cons, List.not_mem_nil, or_false] at hmark
    rcases hmark with rfl | rfl | rfl
    · exact ⟨momentText m, 'Z', rfl, rfl⟩
    · exact ⟨momentText m, 'z', rfl, rfl⟩
    · exact ⟨momentText m ++ ['+', '0', '0', ':', '0'], '0', by simp [zeroOffset], rfl⟩
  rw [hhead] at hend ⊢
  exact trimmed_surrounded hbefore hafter (not_isBlank_digitChar n) hlast hend

end IsoText

namespace Moment
variable {m other : Moment} {t : Int}

/-- The moment of a timestamp on the clock of universal time. -/
structure IsUniversalAt (m : Moment) (t : Int) : Prop where
  proper : m.IsProper
  offset : m.offset? = some 0
  instant : m.countedMicroseconds = t * 1000000

theorem IsUniversalAt.localMicroseconds (h : m.IsUniversalAt t) :
    m.localMicroseconds = t * secondMicroseconds := by
  have hinstant := h.instant
  rw [← universalMicroseconds_eq_counted h.proper, universalMicroseconds, h.offset] at hinstant
  simpa [secondMicroseconds] using hinstant

theorem IsUniversalAt.microsecond (h : m.IsUniversalAt t) : m.microsecond = 0 := by
  have hinstant := h.instant
  have hmicrosecond := h.proper.microsecond
  simp only [countedMicroseconds, h.offset, Option.getD_some] at hinstant
  omega

theorem IsUniversalAt.unique (h : m.IsUniversalAt t) (hother : other.IsUniversalAt t) :
    other = m := by
  rw [← ofLocalMicroseconds_localMicroseconds h.proper,
    ← ofLocalMicroseconds_localMicroseconds hother.proper, h.localMicroseconds,
    hother.localMicroseconds, h.offset, hother.offset]

/-- A timestamp of the years 1 to 9999 denotes its moment of universal time. -/
theorem exists_isUniversalAt (ht : IsWithinYears (t * secondMicroseconds)) :
    ∃ m : Moment, m.IsUniversalAt t ∧ Timestamp.moment t 0 = .ok m := by
  obtain ⟨m, hm⟩ := Timestamp.moment_eq_ok_iff.mpr ht
  obtain ⟨hproper, hoffset, hcount, -⟩ := Timestamp.moment_eq_ok_iff_shown.mp hm
  refine ⟨m, ⟨hproper, hoffset, ?_⟩, hm⟩
  rw [← universalMicroseconds_eq_counted hproper, universalMicroseconds, hoffset, hcount]
  simp [secondMicroseconds]

end Moment

theorem IsoText.read_of_isSpelling {m : Moment} {t : Int} {text : Text} (h : m.IsUniversalAt t)
    (htext : IsSpelling m text) : read text = .ok m := by
  obtain ⟨before, after, mark, hbefore, hafter, hmark, rfl⟩ := htext
  rw [read_eq_ok_iff, trimmed_momentText hmark hbefore hafter, withoutZulu_append hmark,
    readMoment?_momentText h.proper]
  have hwhole := h.microsecond
  have hoffset := h.offset
  refine ⟨?_, h.proper⟩
  cases m
  simp only at hwhole hoffset
  rw [hwhole, hoffset]

/-- A timestamp of the years 1 to 9999 denotes its moment of universal time. The text of that
moment, in any of its spellings, has the same parts or the same fault. -/
theorem partsIn_of_spelling (zones : ZoneTable) {t : Int}
    (ht : Moment.IsWithinYears (t * Moment.secondMicroseconds)) :
    ∃ m : Moment, m.IsUniversalAt t ∧ (∀ other : Moment, other.IsUniversalAt t → other = m) ∧
      (Instant.value (.int t)).toMoment = .ok m ∧
      ∀ text zone?, IsoText.IsSpelling m text →
        (Instant.value (.text text)).partsIn zones zone? =
            (Instant.value (.int t)).partsIn zones zone? ∧
          (Instant.value (.text text)).toParts zone? = (Instant.value (.int t)).toParts zone? := by
  obtain ⟨m, huniversal, hm⟩ := Moment.exists_isUniversalAt ht
  refine ⟨m, huniversal, fun other hother => huniversal.unique hother, hm, ?_⟩
  intro text zone? htext
  have hmoment : (Instant.value (.text text)).toMoment = (Instant.value (.int t)).toMoment :=
    (IsoText.read_of_isSpelling huniversal htext).trans hm.symm
  have hparts (zones : ZoneTable) : (Instant.value (.text text)).partsIn zones zone? =
      (Instant.value (.int t)).partsIn zones zone? := by
    rw [Instant.partsIn, hmoment]
    rfl
  exact ⟨hparts zones, hparts Zone.known⟩

/-- The last second of 1969, before which the timestamps are negative. -/
theorem partsIn_lastSecond :
    Moment.IsWithinYears (-1 * Moment.secondMicroseconds) ∧
      (Instant.value (.text " 1969-12-31T23:59:59z\n".toList)).toParts
          (some "Europe/Paris".toList) =
        (Instant.value (.int (-1))).toParts (some "Europe/Paris".toList) ∧
      (Instant.value (.int (-1))).toParts (some "Europe/Paris".toList) =
        .ok ⟨1970, 0, 1, 4, 0, 59, 59, 0⟩ := by
  have hyears : Moment.IsWithinYears (-1 * Moment.secondMicroseconds) := by decide
  obtain ⟨m, -, hunique, -, hspelling⟩ := partsIn_of_spelling Zone.known hyears
  have hlast : (⟨⟨1969, 12, 31⟩, 23, 59, 59, 0, some 0⟩ : Moment).IsUniversalAt (-1) :=
    ⟨(Moment.check_eq_ok_iff.mp rfl).1, rfl, by decide⟩
  obtain rfl := hunique _ hlast
  have hspace : ∀ c ∈ [' '], Text.isBlank c = true := List.forall_mem_singleton.mpr rfl
  have hnewline : ∀ c ∈ ['\n'], Text.isBlank c = true := List.forall_mem_singleton.mpr rfl
  refine ⟨hyears, ?_, by rfl⟩
  exact (hspelling _ _ ⟨[' '], ['\n'], ['z'], hspace, hnewline, by decide, by rfl⟩).2

end Crontab
