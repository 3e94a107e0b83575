import SpotRebalance.Proofs.Instant.Saturation

/-! # Instants on the timeline

Outside leap seconds, instants are counted by the nanoseconds since the epoch: the count tells them
apart (`ofEpoch_sinceEpoch`), orders them (`le_iff_sinceEpoch`), and grows by the length of a step
(`sinceEpoch_shift`).

On this timeline `Instant.after` is addition that stops at the latest instant (`after_saturates`). A
step may be cut off for two reasons, since there is a longest step and the calendar ends. The
calendar is shorter than the longest step (`sinceEpoch_latest_lt`), so whatever is cut off would
have led beyond the end. -/

namespace SpotRebalance.Instant

/-- The first instant of the calendar: the start of year -262143. -/
def earliest : Instant := ⟨-8334601228800, 0⟩

/-- **An instant of the calendar** that lies in no leap second. -/
structure OnCalendar (t : Instant) : Prop where
  /-- The calendar has begun. -/
  earliest_le : earliest ≤ t
  /-- The calendar has not ended. -/
  le_latest : t ≤ latest
  /-- It lies in no leap second. -/
  plain : t.nanos < Duration.second

variable {t later : Instant} {d : Duration}

/-! ## Counting nanoseconds -/

theorem nanos_ofEpoch_lt (n : ℤ) : (ofEpoch n).nanos < Duration.second := by
  simp only [ofEpoch, Duration.second]
  omega

@[simp] theorem sinceEpoch_ofEpoch (n : ℤ) : (ofEpoch n).sinceEpoch = n := by
  simp only [ofEpoch, sinceEpoch, Duration.second]
  omega

/-- The count tells instants apart. -/
theorem ofEpoch_sinceEpoch (ht : t.nanos < Duration.second) : ofEpoch t.sinceEpoch = t := by
  ext1
  · simp only [ofEpoch, sinceEpoch, Duration.second] at *
    omega
  · simp only [ofEpoch, sinceEpoch, Duration.second] at *
    omega

/-- The count orders instants. -/
theorem le_iff_sinceEpoch (ht : t.nanos < Duration.second)
    (hlater : later.nanos < Duration.second) :
    t ≤ later ↔ t.sinceEpoch ≤ later.sinceEpoch := by
  simp only [le_iff, sinceEpoch, Duration.second] at *
  omega

/-- What is counted later is later. -/
theorem ofEpoch_mono {m n : ℤ} (h : m ≤ n) : ofEpoch m ≤ ofEpoch n := by
  rw [le_iff_sinceEpoch (nanos_ofEpoch_lt m) (nanos_ofEpoch_lt n), sinceEpoch_ofEpoch,
    sinceEpoch_ofEpoch]
  exact h

theorem nanos_shift_lt (ht : t.nanos < Duration.second) : (t.shift d).nanos < Duration.second := by
  rw [shift_of_not_leap ht]
  exact Nat.mod_lt _ (by decide)

/-- The count grows by the length of a step. -/
theorem sinceEpoch_shift (ht : t.nanos < Duration.second) :
    (t.shift d).sinceEpoch = t.sinceEpoch + d.nanos := by
  rw [shift_of_not_leap ht]
  simp only [sinceEpoch, Duration.second]
  omega

/-- A step leads to the instant that is counted so much later. -/
theorem shift_eq_ofEpoch (ht : t.nanos < Duration.second) :
    t.shift d = ofEpoch (t.sinceEpoch + d.nanos) := by
  rw [← sinceEpoch_shift ht, ofEpoch_sinceEpoch (nanos_shift_lt ht)]

/-! ## The end of the calendar -/

/-- **The calendar is shorter than the longest step.** -/
theorem sinceEpoch_latest_lt (ht : earliest ≤ t) :
    latest.sinceEpoch < t.sinceEpoch + longestStep := by
  simp only [le_iff, earliest, latest, sinceEpoch, longestStep, Duration.second,
    Duration.millisecond] at *
  omega

/-- The calendar reaches the instants that are no later than the latest one. -/
theorem le_latest_iff (ht : t.nanos < Duration.second) :
    t ≤ latest ↔ t.seconds ≤ latest.seconds := by
  simp only [le_iff, latest, Duration.second] at *
  omega

namespace OnCalendar

/-- **A step is exact, or stops where the calendar ends.** -/
theorem after_eq_min (ht : t.OnCalendar) (d : Duration) :
    t.after d = min latest (ofEpoch (t.sinceEpoch + d.nanos)) := by
  rw [← shift_eq_ofEpoch ht.plain]
  by_cases hreached : (t.shift d).seconds ≤ latest.seconds
  · -- a step within the calendar is not too long
    have hle : t.shift d ≤ latest := (le_latest_iff (nanos_shift_lt ht.plain)).2 hreached
    have hcount := (le_iff_sinceEpoch (nanos_shift_lt ht.plain) (by decide)).1 hle
    have hstep := sinceEpoch_latest_lt ht.earliest_le
    rw [sinceEpoch_shift ht.plain] at hcount
    rw [min_eq_right hle, after_of_reached (by omega) hreached]
  · have hle : latest ≤ t.shift d := by
      refine le_of_not_ge fun hle => hreached ?_
      exact (le_latest_iff (nanos_shift_lt ht.plain)).1 hle
    have hcut : t.after d = latest := by
      by_contra hne
      exact hreached (reached_of_after_ne hne).2
    rw [min_eq_left hle, hcut]

/-- No step leaves the calendar. -/
theorem after (ht : t.OnCalendar) (d : Duration) : (t.after d).OnCalendar where
  earliest_le := le_trans ht.earliest_le (le_after ht.le_latest d)
  le_latest := after_le_latest ht.le_latest d
  plain := by
    rcases after_eq t d with h | h
    · exact h ▸ nanos_shift_lt ht.plain
    · rw [h]
      decide

/-- One step after another is the step of both durations, cut off at the end. -/
theorem after_after_eq_min (ht : t.OnCalendar) (d e : Duration) :
    (t.after d).after e = min latest (ofEpoch (t.sinceEpoch + d.nanos + e.nanos)) := by
  rw [(ht.after d).after_eq_min, ht.after_eq_min]
  rcases le_total (ofEpoch (t.sinceEpoch + d.nanos)) latest with hle | hle
  · rw [min_eq_right hle, sinceEpoch_ofEpoch]
  · -- the first step was cut off already, and the second one leads further
    have hfurther : latest ≤ ofEpoch (t.sinceEpoch + d.nanos + e.nanos) :=
      hle.trans (ofEpoch_mono (by omega))
    have hstays : latest ≤ ofEpoch (latest.sinceEpoch + e.nanos) := by
      rw [← shift_eq_ofEpoch (by decide)]
      exact le_shift latest e
    rw [min_eq_left hle, min_eq_left hstays, min_eq_left hfurther]

end OnCalendar

/-- **Adding durations stops at the latest instant and is exact up to there**, to the nanosecond,
however long the duration is. So it never leads back, a longer duration or a later start never leads
to an earlier instant, and two durations one after the other are added like their sum. -/
theorem after_saturates (ht : t.OnCalendar) (d : Duration) :
    t.after d = min latest (ofEpoch (t.sinceEpoch + d.nanos)) ∧ t ≤ t.after d ∧
      (∀ longer, d ≤ longer → t.after d ≤ t.after longer) ∧
      (∀ later : Instant, later.OnCalendar → t ≤ later → t.after d ≤ later.after d) ∧
      ∀ e, (t.after d).after e = min latest (ofEpoch (t.sinceEpoch + d.nanos + e.nanos)) := by
  refine ⟨ht.after_eq_min d, le_after ht.le_latest d, fun longer hlonger => ?_,
    fun later hlater hle => ?_, ht.after_after_eq_min d⟩
  · have hcount : (d.nanos : ℤ) ≤ longer.nanos := Int.ofNat_le.2 hlonger
    rw [ht.after_eq_min, ht.after_eq_min]
    exact min_le_min_left _ (ofEpoch_mono (by omega))
  · have hcount := (le_iff_sinceEpoch ht.plain hlater.plain).1 hle
    rw [ht.after_eq_min, hlater.after_eq_min]
    exact min_le_min_left _ (ofEpoch_mono (by omega))

/-- From a morning in 2024, a minute leads a minute further, and the longest duration of all, which
is longer than the longest step, to the end of the calendar. -/
theorem after_saturates_morning :
    let morning : Instant := ⟨1717228800, 5⟩
    let longest : Duration := ⟨Duration.bound - 1⟩
    morning.OnCalendar ∧ longestStep < longest.nanos ∧
      morning.after (.ofSeconds 60) = ⟨1717228860, 5⟩ ∧
      morning.after longest = latest ∧ (morning.after (.ofSeconds 60)).after longest = latest := by
  intro morning longest
  have hmorning : morning.OnCalendar := ⟨by decide, by decide, by decide⟩
  obtain ⟨hminute, -, -, -, hboth⟩ := after_saturates hmorning (.ofSeconds 60)
  refine ⟨hmorning, by decide, ?_, ?_, ?_⟩
  · rw [hminute]
    decide
  · rw [(after_saturates hmorning longest).1]
    decide
  · rw [hboth longest]
    decide

end SpotRebalance.Instant
