import Mathlib.Algebra.Order.Floor.Div
import SpotRebalance.Clock

/-! # Timers

What holds of readings, whoever takes them. A timer goes off less than a millisecond after its
deadline, and exactly then if that is a whole millisecond (`wholeMillis_lt`, `wholeMillis_of_dvd`).

Pauses that follow one another end at `afterPauses`. From a whole millisecond on they are evenly
spaced, as long as one pause rounded up (`afterPauses_of_dvd`). From another reading the first one
is a little longer or shorter than the others, and so is the number of pauses that fill a span
(`le_afterPauses_iff`). It is never more than the quotient (`pausesFor_le`).

So work that pauses has one of two **rhythms**: an even one, or that of timers. They are the same
from whole milliseconds on if pauses are rounded up (`Rhythm.timers_after`,
`Rhythm.timers_filling`). -/

namespace SpotRebalance.Duration

variable {a b reading reading' span pause start : Duration}

/-! ## Whole milliseconds -/

/-- No reading is later than the whole millisecond at which its timer goes off. -/
theorem le_wholeMillis (a : Duration) : a ≤ a.wholeMillis := by
  rw [le_iff, nanos_wholeMillis]
  unfold millisecond
  omega

/-- Timers go off at whole milliseconds. -/
theorem dvd_wholeMillis (a : Duration) : millisecond ∣ a.wholeMillis.nanos := by
  rw [nanos_wholeMillis]
  exact Nat.dvd_mul_left _ _

/-- Timers of earlier deadlines go off earlier. -/
theorem wholeMillis_mono (h : a ≤ b) : a.wholeMillis ≤ b.wholeMillis := by
  rw [le_iff] at h
  rw [le_iff, nanos_wholeMillis, nanos_wholeMillis]
  apply Nat.mul_le_mul_right
  apply Nat.div_le_div_right
  omega

/-- A timer goes off less than a millisecond after its deadline. -/
theorem wholeMillis_lt (a : Duration) : a.wholeMillis.nanos < a.nanos + millisecond := by
  rw [nanos_wholeMillis]
  unfold millisecond
  omega

/-- A timer with a deadline at a whole millisecond goes off at its deadline. -/
theorem wholeMillis_of_dvd (h : millisecond ∣ a.nanos) : a.wholeMillis = a := by
  obtain ⟨n, hn⟩ := h
  ext
  rw [nanos_wholeMillis]
  unfold millisecond at hn ⊢
  omega

/-- Whole milliseconds in front are not rounded. -/
theorem wholeMillis_add_of_dvd (h : millisecond ∣ a.nanos) (b : Duration) :
    (a + b).wholeMillis = a + b.wholeMillis := by
  obtain ⟨n, hn⟩ := h
  ext
  rw [nanos_wholeMillis, nanos_add, nanos_add, nanos_wholeMillis, hn]
  unfold millisecond
  omega

/-! ## The range of the clock -/

/-- A span can be added unless that leads beyond the end of the clock. -/
theorem later?_eq_none_iff : reading.later? span = none ↔ ¬ reading + span ≤ clockEnd := by
  rw [later?]
  split <;> simp_all

/-- A reading that the clock gets to is the sum. -/
theorem eq_of_later? {later : Duration} (h : reading.later? span = some later) :
    later = reading + span := by
  rw [later?] at h
  by_cases hroom : reading + span ≤ clockEnd
  · rw [if_pos hroom] at h
    exact (Option.some.inj h).symm
  · rw [if_neg hroom] at h
    cases h

/-- A later reading has less of the clock before it. -/
theorem add_le_clockEnd (hle : reading' ≤ reading) (h : reading + span ≤ clockEnd) :
    reading' + span ≤ clockEnd :=
  Nat.le_trans (Nat.add_le_add_right hle _) h

/-- A sum of spans that does not fit in a word does not fit on the clock. -/
theorem add?_eq_none (h : a.add? b = none) (reading : Duration) :
    ¬ reading + (a + b) ≤ clockEnd := by
  intro hle
  have hend : clockEnd.nanos < bound := by decide
  have hsum : reading.nanos + (a.nanos + b.nanos) ≤ clockEnd.nanos := hle
  rw [add?, if_pos (by omega)] at h
  cases h

/-- A sum of spans that fits in a word is the sum. -/
theorem add?_eq_some {sum : Duration} (h : a.add? b = some sum) : sum = a + b := by
  rw [add?] at h
  split at h
  · exact (Option.some.inj h).symm
  · cases h

/-! ## Pauses -/

/-- A pause is over no earlier than it should be. -/
theorem add_le_afterPause (reading pause : Duration) : reading + pause ≤ reading.afterPause pause :=
  le_wholeMillis _

/-- A pause does not set back the clock. -/
theorem le_afterPause (reading pause : Duration) : reading ≤ reading.afterPause pause :=
  Nat.le_trans (Nat.le_add_right ..) (add_le_afterPause reading pause)

/-- The reading after a number of pauses. -/
def afterPauses (pause start : Duration) : ℕ → Duration
  | 0 => start
  | k + 1 => (afterPauses pause start k).afterPause pause

@[simp] theorem afterPauses_zero (pause start : Duration) : afterPauses pause start 0 = start := rfl

theorem afterPauses_succ (pause start : Duration) (k : ℕ) :
    afterPauses pause start (k + 1) = (afterPauses pause start k).afterPause pause := rfl

/-- After a pause the reading is a whole millisecond. -/
theorem dvd_afterPauses (pause start : Duration) (k : ℕ) :
    millisecond ∣ (afterPauses pause start (k + 1)).nanos :=
  dvd_wholeMillis _

/-- **The pauses after the first one are evenly spaced.** -/
theorem afterPauses_succ_eq (pause start : Duration) (k : ℕ) :
    afterPauses pause start (k + 1) =
      ⟨(start.afterPause pause).nanos + k * pause.wholeMillis.nanos⟩ := by
  induction k with
  | zero =>
    ext
    rw [afterPauses_succ, afterPauses_zero, Nat.zero_mul, Nat.add_zero]
  | succ k ih =>
    -- the last pause ended at a whole millisecond, so of the sum only the pause is rounded
    rw [afterPauses_succ, afterPause, wholeMillis_add_of_dvd (dvd_afterPauses ..), ih]
    ext
    rw [nanos_add, Nat.succ_mul, Nat.add_assoc]

/-- **From a whole millisecond on all pauses are evenly spaced.** -/
theorem afterPauses_of_dvd (hstart : millisecond ∣ start.nanos) (k : ℕ) :
    afterPauses pause start k = ⟨start.nanos + k * pause.wholeMillis.nanos⟩ := by
  cases k with
  | zero =>
    rw [Nat.zero_mul, Nat.add_zero]
    rfl
  | succ k =>
    rw [afterPauses_succ_eq, afterPause, wholeMillis_add_of_dvd hstart]
    ext
    simp only [nanos_add, Nat.succ_mul]
    omega

/-- No pause is shorter than it should be. -/
theorem add_mul_le_afterPauses (pause start : Duration) (k : ℕ) :
    start.nanos + k * pause.nanos ≤ (afterPauses pause start k).nanos := by
  induction k with
  | zero => simp
  | succ k ih =>
    have hpause := add_le_afterPause (afterPauses pause start k) pause
    rw [le_iff, nanos_add] at hpause
    rw [afterPauses_succ, Nat.succ_mul]
    omega

/-- **How many pauses fill a span** that begins at a reading. -/
def pausesFor (pause start span : Duration) : ℕ :=
  if span.nanos = 0 then 0
  else
    ((start + span).nanos - (start.afterPause pause).nanos) ⌈/⌉ pause.wholeMillis.nanos + 1

/-- A pause that is rounded up is a pause. -/
theorem wholeMillis_pos (hpause : 0 < pause.nanos) : 0 < pause.wholeMillis.nanos :=
  Nat.lt_of_lt_of_le hpause (le_wholeMillis pause)

/-- **A span is over after a number of pauses** exactly if they fill it. -/
theorem le_afterPauses_iff (hpause : 0 < pause.nanos) {k : ℕ} :
    start + span ≤ afterPauses pause start k ↔ pausesFor pause start span ≤ k := by
  rw [pausesFor]
  split
  · rename_i hspan
    have hmore := add_mul_le_afterPauses pause start k
    refine iff_of_true ?_ (Nat.zero_le k)
    rw [le_iff, nanos_add]
    omega
  · rename_i hspan
    -- the first pause may begin between two milliseconds, so it is counted apart from the others
    cases k with
    | zero =>
      refine iff_of_false ?_ (by simp)
      rw [afterPauses_zero, le_iff, nanos_add]
      omega
    | succ k =>
      have hround := wholeMillis_pos hpause
      rw [Nat.succ_le_succ_iff, ceilDiv_le_iff_le_mul hround, afterPauses_succ_eq, le_iff,
        Nat.sub_le_iff_le_add, Nat.mul_comm, Nat.add_comm]

/-- **No more pauses fit in a span than its quotient says.** -/
theorem pausesFor_le (hpause : 0 < pause.nanos) (start span : Duration) :
    pausesFor pause start span ≤ span.nanos ⌈/⌉ pause.nanos := by
  rw [← le_afterPauses_iff hpause, le_iff, nanos_add]
  refine Nat.le_trans (Nat.add_le_add_left ?_ _) (add_mul_le_afterPauses pause start _)
  rw [Nat.mul_comm]
  exact (ceilDiv_le_iff_le_mul hpause).1 (Nat.le_refl _)

/-- **From a whole millisecond on the number of pauses is the quotient** by one that is rounded
up. -/
theorem pausesFor_of_dvd (hpause : 0 < pause.nanos) (hstart : millisecond ∣ start.nanos)
    (span : Duration) : pausesFor pause start span = span.nanos ⌈/⌉ pause.wholeMillis.nanos := by
  refine eq_of_forall_ge_iff fun k => ?_
  rw [← le_afterPauses_iff hpause, afterPauses_of_dvd hstart, le_iff, nanos_add,
    Nat.add_le_add_iff_left, ceilDiv_le_iff_le_mul (wholeMillis_pos hpause), Nat.mul_comm]

/-- **A reading of work that began at another one**, if it goes on when timers go off: the same
reading, or a whole millisecond. -/
def OnBeat (began reading : Duration) : Prop := reading = began ∨ millisecond ∣ reading.nanos

namespace OnBeat

variable {began : Duration}

theorem refl (began : Duration) : OnBeat began began := Or.inl rfl

/-- After pauses the work goes on at a whole millisecond. -/
theorem afterPauses (h : OnBeat began start) (pause : Duration) (k : ℕ) :
    OnBeat began (afterPauses pause start k) := by
  cases k with
  | zero => exact h
  | succ k => exact Or.inr (dvd_afterPauses pause start k)

/-- The later of two readings is one of them. -/
theorem max (ha : OnBeat began a) (hb : OnBeat began b) : OnBeat began (max a b) := by
  change OnBeat began (if a ≤ b then b else a)
  split
  · exact hb
  · exact ha

/-- Work that began at a whole millisecond goes on at whole milliseconds only. -/
theorem dvd (h : OnBeat began reading) (hbegan : millisecond ∣ began.nanos) :
    millisecond ∣ reading.nanos := by
  rcases h with rfl | hdvd
  · exact hbegan
  · exact hdvd

end OnBeat

end SpotRebalance.Duration

namespace SpotRebalance

/-! ## Rhythms -/

/-- **A rhythm**: when pauses that follow one another are over. -/
structure Rhythm where
  /-- The reading after a number of pauses. -/
  after (pause start : Duration) : ℕ → Duration
  /-- How many pauses fill a span that begins at a reading. -/
  filling (pause start span : Duration) : ℕ
  /-- The span is over once they are. -/
  le_after_iff {pause : Duration} (hpause : 0 < pause.nanos) (start span : Duration) (k : ℕ) :
    start + span ≤ after pause start k ↔ filling pause start span ≤ k
  /-- The quotient says how many there can be. -/
  filling_le {pause : Duration} (hpause : 0 < pause.nanos) (start span : Duration) :
    filling pause start span ≤ span.nanos ⌈/⌉ pause.nanos

namespace Rhythm

/-- **Pauses that are exactly as long as they should be.** -/
def even : Rhythm where
  after pause start k := ⟨start.nanos + k * pause.nanos⟩
  filling pause _ span := span.nanos ⌈/⌉ pause.nanos
  le_after_iff hpause start span k := by
    rw [ceilDiv_le_iff_le_mul hpause, Nat.mul_comm]
    exact Nat.add_le_add_iff_left
  filling_le _ _ _ := Nat.le_refl _

/-- **Pauses that end when a timer goes off.** -/
def timers : Rhythm where
  after := Duration.afterPauses
  filling := Duration.pausesFor
  le_after_iff hpause _ _ _ := Duration.le_afterPauses_iff hpause
  filling_le hpause := Duration.pausesFor_le hpause

variable {start : Duration} (hstart : Duration.millisecond ∣ start.nanos) (pause : Duration)

include hstart

/-- **From a whole millisecond on timers are even**, with pauses that are rounded up. -/
theorem timers_after : timers.after pause start = even.after pause.wholeMillis start :=
  funext fun k => Duration.afterPauses_of_dvd hstart k

/-- So are the numbers of pauses. -/
theorem timers_filling {pause : Duration} (hpause : 0 < pause.nanos) (span : Duration) :
    timers.filling pause start span = even.filling pause.wholeMillis start span :=
  Duration.pausesFor_of_dvd hpause hstart span

end Rhythm

end SpotRebalance
