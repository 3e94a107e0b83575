import Mathlib.Order.MinMax
import SpotRebalance.Instant

/-! # Instants that stop at the end of the calendar

How durations are added to instants. `Instant.shift` adds exactly: two durations one after the other
add up (`shift_shift`), and no duration leads back (`le_shift`), in leap seconds too.
`Instant.after` stops at the latest instant, so it is never before the shift cut off there
(`min_latest_shift_le_after`).

An instant in a leap second after the last second of the calendar would lie beyond the latest one.
All others stay within the calendar, and for them adding never leads back (`le_after`). -/

namespace SpotRebalance.Instant

/-- Instants are ordered by their seconds and then by the nanoseconds beyond them. -/
instance : LinearOrder Instant where
  le_refl a := by
    rw [le_iff]
    omega
  le_trans a b c hab hbc := by
    rw [le_iff] at *
    omega
  le_antisymm a b hab hba := by
    rw [le_iff] at *
    ext1 <;> omega
  le_total a b := by
    simp only [le_iff]
    omega
  lt_iff_le_not_ge a b := by
    simp only [lt_iff, le_iff]
    omega
  toDecidableLE := inferInstance

/-! ## Exact addition -/

section Shift

variable {t : Instant} {d : Duration}

/-- A step stays within a leap second if it starts in one and ends in it. -/
theorem staysInLeap_iff :
    t.staysInLeap d ↔ Duration.second ≤ t.nanos ∧ t.nanos + d.nanos < 2 * Duration.second := by
  simp only [staysInLeap, isLeap, Bool.and_eq_true, decide_eq_true_eq]
  omega

/-- A step that stays within a leap second. -/
theorem shift_of_stays (hleap : Duration.second ≤ t.nanos)
    (hstays : t.nanos + d.nanos < 2 * Duration.second) :
    t.shift d = ⟨t.seconds, t.nanos + d.nanos⟩ := by
  rw [shift, if_pos (staysInLeap_iff.2 ⟨hleap, hstays⟩)]

/-- A step that leaves a leap second starts at the same fraction of the second before. -/
theorem shift_of_leaves (hleap : Duration.second ≤ t.nanos)
    (hleaves : 2 * Duration.second ≤ t.nanos + d.nanos) :
    t.shift d = ⟨t.seconds + ((t.nanos - Duration.second + d.nanos) / Duration.second : Nat),
      (t.nanos - Duration.second + d.nanos) % Duration.second⟩ := by
  have hstays : ¬ t.staysInLeap d := fun h => Nat.not_lt.2 hleaves (staysInLeap_iff.1 h).2
  have hisLeap : t.isLeap := decide_eq_true hleap
  rw [shift, if_neg hstays, if_pos hisLeap]

/-- A step that starts in no leap second carries whole seconds. -/
theorem shift_of_not_leap (hleap : t.nanos < Duration.second) :
    t.shift d = ⟨t.seconds + ((t.nanos + d.nanos) / Duration.second : Nat),
      (t.nanos + d.nanos) % Duration.second⟩ := by
  have hstays : ¬ t.staysInLeap d := fun h => Nat.not_le.2 hleap (staysInLeap_iff.1 h).1
  have hisLeap : ¬ t.isLeap := fun h => Nat.not_le.2 hleap (of_decide_eq_true h)
  rw [shift, if_neg hstays, if_neg hisLeap]

/-- A step either stays within a leap second, or leaves one, or starts in none. -/
theorem shift_cases (t : Instant) (d : Duration) :
    (Duration.second ≤ t.nanos ∧ t.nanos + d.nanos < 2 * Duration.second) ∨
      (Duration.second ≤ t.nanos ∧ 2 * Duration.second ≤ t.nanos + d.nanos) ∨
        t.nanos < Duration.second := by
  omega

end Shift

/-- **Durations add up.** One step after another leads where the step of both durations leads. -/
theorem shift_shift (t : Instant) (d e : Duration) : (t.shift d).shift e = t.shift (d + e) := by
  have hsecond : 0 < Duration.second := by decide
  rcases shift_cases t d with ⟨hleap, hstays⟩ | ⟨hleap, hleaves⟩ | hplain
  · -- the first step stays in the leap second; the second may leave it, as both together do
    rw [shift_of_stays hleap hstays]
    have hleap' : Duration.second ≤ t.nanos + d.nanos := by omega
    rcases Nat.lt_or_ge (t.nanos + d.nanos + e.nanos) (2 * Duration.second) with hlt | hge
    · rw [shift_of_stays hleap' hlt, shift_of_stays hleap (by rw [Duration.nanos_add]; omega),
        Duration.nanos_add, Nat.add_assoc]
    · have hsum : t.nanos + d.nanos - Duration.second + e.nanos = t.nanos - Duration.second +
          (d + e).nanos := by
        rw [Duration.nanos_add]
        omega
      rw [shift_of_leaves hleap' hge,
        shift_of_leaves hleap (by rw [Duration.nanos_add]; omega), hsum]
  · rw [shift_of_leaves hleap hleaves, shift_of_not_leap (Nat.mod_lt _ hsecond),
      shift_of_leaves hleap (by rw [Duration.nanos_add]; omega)]
    ext1
    · simp only [Duration.nanos_add, Duration.second]
      omega
    · simp only [Duration.nanos_add, Duration.second]
      omega
  · rw [shift_of_not_leap hplain, shift_of_not_leap (Nat.mod_lt _ hsecond),
      shift_of_not_leap hplain]
    ext1
    · simp only [Duration.nanos_add, Duration.second]
      omega
    · simp only [Duration.nanos_add, Duration.second]
      omega

/-- Durations may be added in any order. -/
theorem shift_comm (t : Instant) (d e : Duration) : (t.shift d).shift e = (t.shift e).shift d := by
  rw [shift_shift, shift_shift]
  exact congrArg t.shift (Duration.ext (Nat.add_comm ..))

/-- **No duration leads back.** -/
theorem le_shift (t : Instant) (d : Duration) : t ≤ t.shift d := by
  rw [le_iff]
  rcases shift_cases t d with ⟨hleap, hstays⟩ | ⟨hleap, hleaves⟩ | hplain
  · rw [shift_of_stays hleap hstays]
    exact Or.inr ⟨rfl, Nat.le_add_right ..⟩
  · -- the fraction that is left of the leap second and the duration make a second at least
    rw [shift_of_leaves hleap hleaves]
    simp only [Duration.second] at *
    omega
  · rw [shift_of_not_leap hplain]
    simp only [Duration.second] at *
    omega

/-! ## Addition that stops at the latest instant -/

/-- What is added stops at the latest instant or leads where the exact step leads. -/
theorem after_eq (t : Instant) (d : Duration) : t.after d = t.shift d ∨ t.after d = latest := by
  rw [after, after?]
  split
  · exact Or.inl rfl
  · exact Or.inr rfl

/-- **Stopping early never falls short**: the exact step, cut off at the latest instant, is no
later. -/
theorem min_latest_shift_le_after (t : Instant) (d : Duration) :
    min latest (t.shift d) ≤ t.after d := by
  rw [min_le_iff]
  rcases after_eq t d with h | h
  · exact Or.inr (h ▸ le_refl _)
  · exact Or.inl (h ▸ le_refl _)

/-- Nothing leads beyond the latest instant once it is reached. -/
theorem latest_after (d : Duration) : latest.after d = latest := by
  rcases Nat.eq_zero_or_pos d.nanos with hzero | hpos
  · obtain ⟨nanos⟩ := d
    cases hzero
    decide
  · have hbeyond : ¬ (latest.shift d).seconds ≤ latest.seconds := by
      rw [shift_of_not_leap (by decide)]
      simp only [latest, Duration.second]
      omega
    rw [after, after?, if_neg fun h => hbeyond h.2]
    rfl

/-- A step is exact if it is not too long and stays within the calendar. -/
theorem after_of_reached {t : Instant} {d : Duration} (hstep : d.nanos ≤ longestStep)
    (hreached : (t.shift d).seconds ≤ latest.seconds) : t.after d = t.shift d := by
  rw [after, after?, if_pos ⟨hstep, hreached⟩]
  rfl

/-- Any other step ends at the latest instant. -/
theorem reached_of_after_ne {t : Instant} {d : Duration} (h : t.after d ≠ latest) :
    d.nanos ≤ longestStep ∧ (t.shift d).seconds ≤ latest.seconds := by
  by_contra hcut
  refine h ?_
  rw [after, after?, if_neg hcut]
  rfl

/-- No duration leads back by seconds. -/
theorem seconds_le_shift (t : Instant) (d : Duration) : t.seconds ≤ (t.shift d).seconds := by
  have hle := le_iff.1 (le_shift t d)
  omega

/-- No time at all changes nothing for what is added after it. -/
theorem after_zero_after (t : Instant) (d : Duration) : (t.after ⟨0⟩).after d = t.after d := by
  have hshift : (t.shift ⟨0⟩).shift d = t.shift d := by
    rw [shift_shift]
    exact congrArg t.shift (Duration.ext (Nat.zero_add _))
  by_cases hreached : (t.shift ⟨0⟩).seconds ≤ latest.seconds
  · rw [after_of_reached (Nat.zero_le _) hreached, after, after, after?, after?, hshift]
  · -- what lies beyond the calendar already stays beyond it
    have hstart : t.after ⟨0⟩ = latest := by
      by_contra h
      exact hreached (reached_of_after_ne h).2
    have hend : t.after d = latest := by
      by_contra h
      have hle := seconds_le_shift (t.shift ⟨0⟩) d
      rw [hshift] at hle
      exact hreached (hle.trans (reached_of_after_ne h).2)
    rw [hstart, latest_after, hend]

/-- **Two steps that stop at the latest instant** never fall short of the exact one, cut off
there. -/
theorem min_latest_shift_add_le_after_after (t : Instant) (d e : Duration) :
    min latest (t.shift (d + e)) ≤ (t.after d).after e := by
  rcases after_eq t d with h | h
  · rw [h, ← shift_shift]
    exact min_latest_shift_le_after ..
  · rw [h, latest_after, min_le_iff]
    exact Or.inl (le_refl _)

/-- An instant within the calendar leads to one within the calendar. -/
theorem after_le_latest {t : Instant} (ht : t ≤ latest) (d : Duration) : t.after d ≤ latest := by
  rw [after, after?]
  split
  · rename_i hreached
    have hseconds := hreached.2
    change t.shift d ≤ latest
    rw [le_iff] at ht ⊢
    -- only a leap second could go beyond, and the last second of the calendar has none within it
    rcases shift_cases t d with ⟨hleap, hstays⟩ | ⟨hleap, hleaves⟩ | hplain
    · rw [shift_of_stays hleap hstays]
      simp only [Duration.second, latest] at *
      omega
    · rw [shift_of_leaves hleap hleaves] at hseconds ⊢
      simp only [Duration.second, latest] at *
      omega
    · rw [shift_of_not_leap hplain] at hseconds ⊢
      simp only [Duration.second, latest] at *
      omega
  · exact le_refl _

/-- **Within the calendar no duration leads back**, cut off or not. -/
theorem le_after {t : Instant} (ht : t ≤ latest) (d : Duration) : t ≤ t.after d := by
  rcases after_eq t d with h | h
  · exact h ▸ le_shift t d
  · exact h ▸ ht

/-- **Two steps that are not cut off** lead where the step of both durations leads. -/
theorem after_after_eq {t : Instant} {d e : Duration} (h : (t.after d).after e ≠ latest) :
    (t.after d).after e = t.shift (d + e) := by
  rcases after_eq t d with hfirst | hfirst
  · rw [hfirst] at h ⊢
    rw [after_of_reached (reached_of_after_ne h).1 (reached_of_after_ne h).2, shift_shift]
  · rw [hfirst, latest_after] at h
    exact absurd rfl h

/-- **Waiting first never leads back**, cut off or not. -/
theorem after_after_le_add {t : Instant} (ht : t ≤ latest) (wait d e : Duration) :
    (t.after d).after e ≤ (t.after (wait + d)).after e := by
  by_cases hcut : (t.after (wait + d)).after e = latest
  · rw [hcut]
    exact after_le_latest (after_le_latest ht d) e
  · -- the longer way is not cut off, so the shorter one is not either
    have hfirst : t.after (wait + d) ≠ latest := fun h => hcut (by rw [h, latest_after])
    have hwait : t.shift (wait + d) = (t.shift d).shift wait := by rw [← shift_shift, shift_comm]
    obtain ⟨hstep, hreached⟩ := reached_of_after_ne hfirst
    rw [after_of_reached hstep hreached, hwait] at hcut ⊢
    obtain ⟨hstep', hreached'⟩ := reached_of_after_ne hcut
    rw [after_of_reached hstep' hreached', shift_comm]
    rw [hwait] at hreached
    rw [shift_comm] at hreached'
    have hstart : d.nanos ≤ longestStep := (Nat.le_add_left ..).trans hstep
    rw [after_of_reached hstart ((seconds_le_shift ..).trans hreached),
      after_of_reached hstep' ((seconds_le_shift ..).trans hreached')]
    exact le_shift ..

/-- Only no time at all leads nowhere. -/
theorem eq_zero_of_shift_eq {t : Instant} {d : Duration} (h : t.shift d = t) : d = ⟨0⟩ := by
  refine Duration.ext ?_
  change d.nanos = 0
  rcases shift_cases t d with ⟨hleap, hstays⟩ | ⟨hleap, hleaves⟩ | hplain
  · rw [shift_of_stays hleap hstays] at h
    have hnanos := congrArg Instant.nanos h
    simp only at hnanos
    omega
  · -- what leaves a leap second does not end in it
    rw [shift_of_leaves hleap hleaves] at h
    have hnanos := congrArg Instant.nanos h
    have hlt :=
      Nat.mod_lt (t.nanos - Duration.second + d.nanos) (show 0 < Duration.second by decide)
    simp only at hnanos
    omega
  · rw [shift_of_not_leap hplain] at h
    have hseconds := congrArg Instant.seconds h
    have hnanos := congrArg Instant.nanos h
    simp only [Duration.second] at *
    omega

section Waiting

variable {t : Instant} (ht : t ≤ latest) {wait d e : Duration}

include ht

/-- **Waiting first leads as much later** as the wait is long, unless it is cut off. -/
theorem shift_after_after (hcut : (t.after (wait + d)).after e ≠ latest) :
    ((t.after d).after e).shift wait = (t.after (wait + d)).after e := by
  have hend : (t.after d).after e ≠ latest := by
    intro heq
    have hle := after_after_le_add ht wait d e
    rw [heq] at hle
    exact hcut (le_antisymm (after_le_latest (after_le_latest ht _) _) hle)
  rw [after_after_eq hcut, after_after_eq hend, shift_shift]
  exact congrArg t.shift (Duration.ext (by simp only [Duration.nanos_add]; omega))

/-- **Waiting first makes no difference** exactly if the wait takes no time, or if there is no later
instant. -/
theorem after_after_eq_iff :
    (t.after d).after e = (t.after (wait + d)).after e ↔ wait = ⟨0⟩ ∨
      (t.after d).after e = latest := by
  constructor
  · intro heq
    by_cases hcut : (t.after (wait + d)).after e = latest
    · exact Or.inr (heq.trans hcut)
    · have hshift := shift_after_after ht hcut
      rw [← heq] at hshift
      exact Or.inl (eq_zero_of_shift_eq hshift)
  · rintro (rfl | hend)
    · rw [show (⟨0⟩ : Duration) + d = d from Duration.ext (Nat.zero_add _)]
    · have hle := after_after_le_add ht wait d e
      rw [hend] at hle ⊢
      exact le_antisymm hle (after_le_latest (after_le_latest ht _) _)

end Waiting

end SpotRebalance.Instant
