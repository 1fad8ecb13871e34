import Crontab.Proofs.CommandLine.Agreement

/-! # The zone of a test

A zone can be given with the command or configured, and each of the two can ask for
universal time. A zone that is given wins over a configured one. Universal time wins
over both, wherever it is asked for.
-/
namespace Crontab.CommandLine
variable {provider : Provider} {settings : Settings} {now : Instant} {expression t zone : Text}

/-- The zone in which a test that is given a zone reads its instant. -/
def clockFor (settings : Settings) (zone : Text) : Text :=
  if settings.utc then universalZone else zone

theorem zoneFor_given (hzone : zone ≠ []) :
    Trigger.zoneFor ((given? (some zone)).or settings.timezone?) (false || settings.utc) =
      some (clockFor settings zone) := by
  rw [given?_some hzone, Bool.false_or, clockFor]
  cases settings.utc <;> rfl

/-- With a time and a zone of its own, a test answers what the expression answers at that time in
that zone, or in universal time if the configuration asks for it. The configured zone has no part
in it. -/
theorem runTest_given_zone (ht : t ≠ []) (hzone : zone ≠ []) :
    (runTest provider settings now expression (some t) (some zone) false =
          .ok ⟨0, "match\n", ""⟩ ↔
        cronMatches provider (.text expression) (.value (.text t)) (some (clockFor settings zone)) =
          .ok true) ∧
      (runTest provider settings now expression (some t) (some zone) false =
          .ok ⟨1, "no match\n", ""⟩ ↔
        cronMatches provider (.text expression) (.value (.text t)) (some (clockFor settings zone)) =
          .ok false) ∧
      ∀ fault, runTest provider settings now expression (some t) (some zone) false = .error fault ↔
        cronMatches provider (.text expression) (.value (.text t)) (some (clockFor settings zone)) =
          .error fault := by
  rw [runTest_eq, instantOf_some ht, zoneFor_given hzone]
  cases cronMatches provider (.text expression) (.value (.text t))
      (some (clockFor settings zone)) with
  | error fault => exact ⟨⟨nofun, nofun⟩, ⟨nofun, nofun⟩, fun other => map_eq_error_iff⟩
  | ok due =>
    cases due with
    | true => exact ⟨iff_of_true rfl rfl, iff_of_false nofun nofun, fun fault => ⟨nofun, nofun⟩⟩
    | false => exact ⟨iff_of_false nofun nofun, iff_of_true rfl rfl, fun fault => ⟨nofun, nofun⟩⟩

/-- Eight in the morning of universal time is nine in Paris. -/
theorem runTest_given_zone_paris :
    runTest civilProvider { watches with timezone? := some "Asia/Tokyo".toList } (.value .null)
        "0 0 9 * * *".toList (some "2017-12-06T08:00:00Z".toList) (some "Europe/Paris".toList)
        false = .ok ⟨0, "match\n", ""⟩ ∧
      runTest civilProvider { watches with utc := true } (.value .null) "0 0 8 * * *".toList
        (some "2017-12-06T08:00:00Z".toList) (some "Europe/Paris".toList) false =
          .ok ⟨0, "match\n", ""⟩ := by
  constructor
  · exact (runTest_given_zone (by decide) (by decide)).1.mpr (by rfl)
  · exact (runTest_given_zone (by decide) (by decide)).1.mpr (by rfl)

/-- Configured universal time is kept although the test is given a zone. -/
theorem runTest_given_zone_not_always_used :
    cronMatches civilProvider (.text "0 0 9 * * *".toList)
        (.value (.text "2017-12-06T08:00:00Z".toList)) (some "Europe/Paris".toList) = .ok true ∧
      runTest civilProvider { watches with utc := true } (.value .null) "0 0 9 * * *".toList
        (some "2017-12-06T08:00:00Z".toList) (some "Europe/Paris".toList) false =
          .ok ⟨1, "no match\n", ""⟩ ∧
      ¬ ∀ (settings : Settings) (now : Instant) (expression t zone : Text), t ≠ [] → zone ≠ [] →
        (runTest civilProvider settings now expression (some t) (some zone) false =
            .ok ⟨0, "match\n", ""⟩ ↔
          cronMatches civilProvider (.text expression) (.value (.text t)) (some zone) =
            .ok true) := by
  have hzone : cronMatches civilProvider (.text "0 0 9 * * *".toList)
      (.value (.text "2017-12-06T08:00:00Z".toList)) (some "Europe/Paris".toList) = .ok true := by
    rfl
  have htest : runTest civilProvider { watches with utc := true } (.value .null) "0 0 9 * * *".toList
      (some "2017-12-06T08:00:00Z".toList) (some "Europe/Paris".toList) false =
        .ok ⟨1, "no match\n", ""⟩ := by
    rfl
  refine ⟨hzone, htest, fun h => ?_⟩
  have hmatch := (h { watches with utc := true } (.value .null) _ _ _ (by decide) (by decide)).mpr
    hzone
  cases hmatch.symm.trans htest

end Crontab.CommandLine
