import SpotRebalance.Proofs.Rebalancer.LoopCourse

/-! # The cadence of a loop

When the cycles of a loop start depends on its ticker and on how long they take, in whatever order
short and long ones follow (`Ticker.Drives`). Ticks are due at least a period apart. A tick that is
later than the tolerance moves the ones after it, so missed ticks do not pile up; one that is not so
late leaves them where they are, so a loop whose cycles are shorter than its period never drifts
(`Ticker.Drives.punctual`).

Timers go off at whole milliseconds, and a loop catches up with ticks that were late within the
tolerance. Every loop keeps its cadence up to that (`LoopRun.Cadence`, `Loop.cadence_run`). If only
whole milliseconds occur and the period is longer than the tolerance, the cadence is strict
(`LoopRun.StrictCadence`): a long cycle is followed at once by one other, and short ones start
exactly at the multiples of the period. Other loops may start two cycles at the same time, or the
first one late (`Loop.not_strictCadence`). -/

namespace SpotRebalance

open Duration (clockEnd)

universe u

variable {σ : Type u}

/-- Of cycles that do not overlap none starts before the one in front of it has ended. -/
theorem LoopTurn.endedAt_le_startedAt {turns : List LoopTurn} {a b : LoopTurn} {i : Nat}
    (h : turns.Pairwise fun a b => a.endedAt ≤ b.startedAt) (ha : turns[i]? = some a)
    (hb : turns[i + 1]? = some b) :
    a.endedAt ≤ b.startedAt := by
  obtain ⟨hi, rfl⟩ := List.getElem?_eq_some_iff.1 ha
  obtain ⟨hj, rfl⟩ := List.getElem?_eq_some_iff.1 hb
  exact List.pairwise_iff_getElem.1 h i (i + 1) hi hj (Nat.lt_succ_self i)

/-! ## Ticks and cycles -/

namespace Ticker

/-- **A ticker drives cycles** in a loop that has been idle since a reading: each of them starts
when the tick that comes after the ones in front of it goes off. -/
def Drives : Ticker → (idle : Duration) → List LoopTurn → Prop
  | _, _, [] => True
  | t, idle, turn :: turns =>
    turn.startedAt = t.firesAt idle ∧
      Drives ⟨t.period, t.dueAfter turn.startedAt⟩ turn.endedAt turns

/-- The next tick goes off at the latest when the loop is idle and the timer of a period has gone
off. -/
theorem firesAt_next_le {t : Ticker} {fired : Duration} (hdue : t.due ≤ fired) (idle : Duration) :
    firesAt ⟨t.period, t.dueAfter fired⟩ idle ≤ max idle (fired + t.period).wholeMillis := by
  have htimer : (t.dueAfter fired).wholeMillis ≤ (fired + t.period).wholeMillis :=
    Duration.wholeMillis_mono (dueAfter_le hdue)
  rw [firesAt, Duration.le_iff, Duration.nanos_max, Duration.nanos_max]
  exact max_le_max (Nat.le_refl _) htimer

namespace Drives

variable {t : Ticker} {idle : Duration} {turns : List LoopTurn} {a b : LoopTurn} {i k : Nat}

/-- The first cycle starts when its tick is due or later. -/
theorem due_le_startedAt (h : t.Drives idle (a :: turns)) : t.due ≤ a.startedAt := by
  rw [h.1]
  exact t.due_le_firesAt idle

/-- The first cycle starts within the slack of the loop and of its timer. -/
theorem startedAt_lt {slack : Nat} (h : t.Drives idle (a :: turns))
    (hidle : idle.nanos < t.due.nanos + slack)
    (htimer : t.due.wholeMillis.nanos < t.due.nanos + slack) :
    a.startedAt.nanos < t.due.nanos + slack := by
  rw [h.1, firesAt, Duration.nanos_max]
  exact max_lt hidle htimer

/-- No cycle starts before the loop is idle. -/
theorem idle_le_startedAt (h : t.Drives idle turns) (hb : b ∈ turns) : idle ≤ b.startedAt := by
  induction turns generalizing t idle with
  | nil => cases hb
  | cons a turns ih =>
    have hidle : idle ≤ a.startedAt := by
      rw [h.1]
      exact t.idle_le_firesAt idle
    rcases List.mem_cons.1 hb with rfl | hb
    · exact hidle
    · have hended : a.startedAt ≤ a.endedAt := Nat.le_add_right _ _
      exact Nat.le_trans (Nat.le_trans hidle hended) (ih h.2 hb)

/-- **Cycles do not overlap.** -/
theorem disjoint (h : t.Drives idle turns) : turns.Pairwise fun a b => a.endedAt ≤ b.startedAt := by
  induction turns generalizing t idle with
  | nil => exact .nil
  | cons a turns ih => exact .cons (fun b hb => idle_le_startedAt h.2 hb) (ih h.2)

/-- Cycles that take whole milliseconds end at whole ones. -/
theorem dvd_endedAt (h : t.Drives idle turns) (hidle : Duration.millisecond ∣ idle.nanos)
    (hwhole : ∀ a ∈ turns, Duration.millisecond ∣ a.took.nanos) (hb : b ∈ turns) :
    Duration.millisecond ∣ b.endedAt.nanos := by
  induction turns generalizing t idle with
  | nil => cases hb
  | cons a turns ih =>
    obtain ⟨htook, hrest⟩ := List.forall_mem_cons.1 hwhole
    have hstart : Duration.millisecond ∣ a.startedAt.nanos := by
      rw [h.1, firesAt, Duration.nanos_max]
      rcases Nat.le_total idle.nanos t.due.wholeMillis.nanos with hle | hle
      · rw [Nat.max_eq_right hle]
        exact t.due.dvd_wholeMillis
      · rw [Nat.max_eq_left hle]
        exact hidle
    have hended : Duration.millisecond ∣ a.endedAt.nanos := Nat.dvd_add hstart htook
    rcases List.mem_cons.1 hb with rfl | hb
    · exact hended
    · exact ih h.2 hended hrest hb

/-- Each cycle starts at the earliest when its tick would be due if none were late. -/
theorem due_le (h : t.Drives idle turns) (hb : turns[k]? = some b) :
    t.due.nanos + k * t.period.nanos ≤ b.startedAt.nanos := by
  induction k generalizing t idle turns with
  | zero =>
    cases turns with
    | nil => cases hb
    | cons a turns =>
      obtain rfl : a = b := Option.some.inj hb
      rw [Nat.zero_mul]
      exact h.due_le_startedAt
  | succ k ih =>
    cases turns with
    | nil => cases hb
    | cons a turns =>
      -- the next tick is due a period later at the earliest, and the others are counted from there
      have hdue : t.due.nanos + t.period.nanos ≤ (t.dueAfter a.startedAt).nanos :=
        t.due_add_period_le _
      have hrest : (t.dueAfter a.startedAt).nanos + k * t.period.nanos ≤ b.startedAt.nanos :=
        ih h.2 hb
      rw [Nat.succ_mul]
      omega

/-- **Missed ticks do not pile up**: cycles are as many periods apart as there are ticks between
them, less at most the tolerance. -/
theorem spaced (h : t.Drives idle turns) (ha : turns[i]? = some a) (hb : turns[i + k]? = some b) :
    a.startedAt.nanos + k * t.period.nanos ≤ b.startedAt.nanos + tolerance.nanos := by
  induction i generalizing t idle turns with
  | zero =>
    cases turns with
    | nil => cases ha
    | cons c turns =>
      obtain rfl : c = a := Option.some.inj ha
      rw [Nat.zero_add] at hb
      cases k with
      | zero =>
        obtain rfl : c = b := Option.some.inj hb
        omega
      | succ k =>
        -- the tolerance is lost once, from a cycle to the next tick; the ticks after that are a
        -- period apart
        have hdue : c.startedAt.nanos + t.period.nanos ≤ (t.dueAfter c.startedAt).nanos +
            tolerance.nanos :=
          t.add_period_le_dueAfter _
        have hrest : (t.dueAfter c.startedAt).nanos + k * t.period.nanos ≤ b.startedAt.nanos :=
          due_le h.2 hb
        rw [Nat.succ_mul]
        omega
  | succ i ih =>
    cases turns with
    | nil => cases ha
    | cons c turns =>
      rw [Nat.succ_add] at hb
      exact ih (t := ⟨t.period, t.dueAfter c.startedAt⟩) h.2 ha hb

/-- **The next cycle does not wait** longer than for the one before it to end and for the timer of a
period from its start. -/
theorem prompt (h : t.Drives idle turns) (ha : turns[i]? = some a) (hb : turns[i + 1]? = some b) :
    b.startedAt ≤ max a.endedAt (a.startedAt + t.period).wholeMillis := by
  induction i generalizing t idle turns with
  | zero =>
    match turns, ha, hb with
    | a :: b :: turns, rfl, rfl =>
      rw [h.2.1]
      exact firesAt_next_le h.due_le_startedAt a.endedAt
  | succ i ih =>
    cases turns with
    | nil => cases ha
    | cons c turns => exact ih (t := ⟨t.period, t.dueAfter c.startedAt⟩) h.2 ha hb

/-- **A loop whose cycles are short does not drift.** If each timer goes off within some slack, and
the slack is within the tolerance, then so does each tick up to the first cycle that takes a period
or more. -/
theorem punctual {slack : Nat} (h : t.Drives idle turns) (hidle : idle.nanos < t.due.nanos + slack)
    (hslack : slack ≤ tolerance.nanos)
    (htimers : ∀ j : Nat, (Duration.wholeMillis ⟨t.due.nanos + j * t.period.nanos⟩).nanos <
      t.due.nanos + j * t.period.nanos + slack)
    (hshort : ∀ a ∈ turns.take k, a.took < t.period) (hb : turns[k]? = some b) :
    b.startedAt.nanos < t.due.nanos + k * t.period.nanos + slack := by
  induction k generalizing t idle turns with
  | zero =>
    cases turns with
    | nil => cases hb
    | cons a turns =>
      obtain rfl : a = b := Option.some.inj hb
      rw [Nat.zero_mul]
      exact h.startedAt_lt hidle (by simpa using htimers 0)
  | succ k ih =>
    cases turns with
    | nil => cases hb
    | cons a turns =>
      have hstart : a.startedAt.nanos < t.due.nanos + slack :=
        h.startedAt_lt hidle (by simpa using htimers 0)
      have htook : a.took.nanos < t.period.nanos := hshort a (by simp)
      -- the tick was not late, so the next one is due a period after it
      have hdue : t.dueAfter a.startedAt = t.due + t.period := by
        refine dueAfter_of_le ?_
        rw [Duration.le_iff, Duration.nanos_add]
        omega
      have hrest := h.2
      rw [hdue] at hrest
      have hnext := ih hrest ?_ ?_ (fun c hc => hshort c (by simp [hc])) hb
      · rw [Nat.succ_mul]
        simp only [Duration.nanos_add] at hnext
        omega
      · simp only [LoopTurn.endedAt, Duration.nanos_add]
        omega
      · intro j
        have htimer := htimers (j + 1)
        rw [Nat.succ_mul, Nat.add_comm _ t.period.nanos, ← Nat.add_assoc] at htimer
        exact htimer

end Drives

end Ticker

/-! ## The cadence -/

/-- **The cadence of a loop** with a period that is told to stop at a reading. -/
structure LoopRun.Cadence (run : LoopRun σ) (period stop : Duration) : Prop where
  /-- The first cycle starts when the timer of one period goes off. -/
  first : ∀ {a}, run.turns[0]? = some a → a.startedAt = period.wholeMillis
  /-- No cycle starts before the ones in front of it have ended. -/
  disjoint : run.turns.Pairwise fun a b => a.endedAt ≤ b.startedAt
  /-- Cycles are as many periods apart as there are ticks between them, less at most the
  tolerance. -/
  spaced : ∀ {i k a b}, run.turns[i]? = some a → run.turns[i + k]? = some b →
    a.startedAt.nanos + k * period.nanos ≤ b.startedAt.nanos + Ticker.tolerance.nanos
  /-- No two cycles start at the same time, unless the period is within the tolerance. -/
  noBurst : Ticker.tolerance < period → ∀ {i a b}, run.turns[i]? = some a →
    run.turns[i + 1]? = some b →
    a.startedAt < b.startedAt
  /-- After a cycle that took a period the next one starts at the latest at the first whole
  millisecond. -/
  prompt : ∀ {i a b}, run.turns[i]? = some a → run.turns[i + 1]? = some b → period ≤ a.took →
    b.startedAt ≤ a.endedAt.wholeMillis
  /-- After a cycle that took a millisecond more the next one starts at its end. -/
  atOnce : ∀ {i a b}, run.turns[i]? = some a → run.turns[i + 1]? = some b →
    period + .ofMillis 1 ≤ a.took →
    b.startedAt = a.endedAt
  /-- A cycle starts less than a millisecond after its number of periods if all before it took less
  than one. -/
  punctual : ∀ {k b}, run.turns[k]? = some b → (∀ a ∈ run.turns.take k, a.took < period) →
    (k + 1) * period.nanos ≤ b.startedAt.nanos ∧
      b.startedAt.nanos < (k + 1) * period.nanos + Duration.millisecond
  /-- It starts exactly then if the period is a number of whole milliseconds. -/
  exact : Duration.millisecond ∣ period.nanos → ∀ {k b}, run.turns[k]? = some b →
    (∀ a ∈ run.turns.take k, a.took < period) → b.startedAt.nanos = (k + 1) * period.nanos
  /-- There is a first cycle if its timer goes off before the stop. -/
  begins : stop + period ≤ clockEnd → period.wholeMillis < stop → 0 < run.turns.length
  /-- There is a next cycle if before the stop the one in front of it ends and its timer goes
  off. -/
  continues : stop + period ≤ clockEnd → ∀ {i a}, run.turns[i]? = some a →
    max a.endedAt (a.startedAt + period).wholeMillis < stop → i + 1 < run.turns.length

/-- **A strict cadence**: timers go off when they are due, and nothing is caught up with. -/
structure LoopRun.StrictCadence (run : LoopRun σ) (period : Duration) : Prop where
  /-- The first cycle starts one period after the loop. -/
  first : ∀ {a}, run.turns[0]? = some a → a.startedAt = period
  /-- No cycle starts before the ones in front of it have ended. -/
  disjoint : run.turns.Pairwise fun a b => a.endedAt ≤ b.startedAt
  /-- Cycles that follow each other start a period apart, less at most the tolerance. -/
  apart : ∀ {i a b}, run.turns[i]? = some a → run.turns[i + 1]? = some b →
    a.startedAt + period ≤ b.startedAt + Ticker.tolerance
  /-- A cycle that took longer than a period is followed at once by the next one. -/
  atOnce : ∀ {i a b}, run.turns[i]? = some a → run.turns[i + 1]? = some b → period < a.took →
    b.startedAt = a.endedAt
  /-- It is not followed by a burst of more. -/
  noBurst : ∀ {i a b c}, run.turns[i]? = some a → run.turns[i + 1]? = some b →
    run.turns[i + 2]? = some c →
    period < a.took → b.startedAt < c.startedAt
  /-- As long as every cycle takes less than a period, each one starts exactly after its number of
  periods. -/
  exact : ∀ {k b}, run.turns[k]? = some b → (∀ a ∈ run.turns.take k, a.took < period) →
    b.startedAt.nanos = (k + 1) * period.nanos

/-- The first tick of a loop goes off when the timer of one period does. -/
theorem Ticker.firesAt_zero (period : Duration) :
    firesAt ⟨period, period⟩ ⟨0⟩ = period.wholeMillis := by
  ext
  rw [firesAt, Duration.nanos_max]
  exact Nat.max_eq_right (Nat.zero_le _)

namespace Ticker.Drives

variable {t : Ticker} {idle period : Duration} {turns : List LoopTurn} {a b : LoopTurn} {i k : Nat}

/-- A first cycle starts when the timer of one period goes off. -/
theorem startedAt_first (h : Drives ⟨period, period⟩ ⟨0⟩ turns) (ha : turns[0]? = some a) :
    a.startedAt = period.wholeMillis := by
  cases turns with
  | nil => cases ha
  | cons c turns =>
    obtain rfl : c = a := Option.some.inj ha
    rw [h.1]
    exact firesAt_zero period

/-- **Cycles are on time** up to the first long one if the timers of the ticks go off within some
slack. -/
theorem onTime {slack : Nat} (h : Drives ⟨period, period⟩ ⟨0⟩ turns) (hpos : 0 < slack)
    (hslack : slack ≤ tolerance.nanos)
    (htimers : ∀ j : Nat, (Duration.wholeMillis ⟨j * period.nanos⟩).nanos < j *
      period.nanos + slack)
    (hb : turns[k]? = some b) (hshort : ∀ a ∈ turns.take k, a.took < period) :
    (k + 1) * period.nanos ≤ b.startedAt.nanos ∧
      b.startedAt.nanos < (k + 1) * period.nanos + slack := by
  have hdue : ∀ j : Nat, period.nanos + j * period.nanos = (j + 1) * period.nanos := by
    intro j
    rw [Nat.succ_mul, Nat.add_comm]
  have hearliest : period.nanos + k * period.nanos ≤ b.startedAt.nanos := h.due_le hb
  have hlatest : b.startedAt.nanos < period.nanos + k * period.nanos + slack :=
    h.punctual (Nat.add_pos_right _ hpos) hslack
      (fun j => by simpa only [hdue] using htimers (j + 1)) hshort hb
  rw [hdue] at hearliest hlatest
  exact ⟨hearliest, hlatest⟩

/-- After a cycle that took a period the next one waits for its end and then at most for a timer
that is due. -/
theorem startedAt_le_wholeMillis (h : t.Drives idle turns) (ha : turns[i]? = some a)
    (hb : turns[i + 1]? = some b) (hlong : t.period ≤ a.took) :
    b.startedAt ≤ a.endedAt.wholeMillis := by
  have hprompt := h.prompt ha hb
  have hended : a.endedAt ≤ a.endedAt.wholeMillis := Duration.le_wholeMillis _
  have htimer : (a.startedAt + t.period).wholeMillis ≤ a.endedAt.wholeMillis :=
    Duration.wholeMillis_mono (Nat.add_le_add_left hlong _)
  rw [Duration.le_iff, Duration.nanos_max] at hprompt
  exact Nat.le_trans hprompt (max_le hended htimer)

/-- After a cycle that took a millisecond more than a period the timer has gone off when that
ends. -/
theorem startedAt_eq_endedAt (h : t.Drives idle turns) (ha : turns[i]? = some a)
    (hb : turns[i + 1]? = some b) (hlong : t.period + .ofMillis 1 ≤ a.took) :
    b.startedAt = a.endedAt := by
  have hprompt := h.prompt ha hb
  have hdisjoint : a.endedAt ≤ b.startedAt := LoopTurn.endedAt_le_startedAt h.disjoint ha hb
  have htimer : (a.startedAt + t.period).wholeMillis ≤ a.endedAt := by
    have hmilli : (Duration.ofMillis 1).nanos = Duration.millisecond := Nat.one_mul _
    have hlate := Duration.wholeMillis_lt (a.startedAt + t.period)
    rw [Duration.le_iff, Duration.nanos_add, hmilli] at hlong
    rw [Duration.le_iff, LoopTurn.endedAt, Duration.nanos_add]
    rw [Duration.nanos_add] at hlate
    omega
  rw [Duration.le_iff, Duration.nanos_max] at hprompt
  exact Duration.ext
    (Nat.le_antisymm (Nat.le_trans hprompt (max_le (Nat.le_refl _) htimer)) hdisjoint)

end Ticker.Drives

/-- **A ticker gives a loop its cadence** from a first tick that is due a period after the start. -/
theorem LoopRun.Cadence.of_drives {run : LoopRun σ} {period stop : Duration}
    (h : Ticker.Drives ⟨period, period⟩ ⟨0⟩ run.turns)
    (hbegins : stop + period ≤ clockEnd → period.wholeMillis < stop → 0 < run.turns.length)
    (hcontinues : stop + period ≤ clockEnd → ∀ {i a}, run.turns[i]? = some a →
      max a.endedAt (a.startedAt + period).wholeMillis < stop → i + 1 < run.turns.length) :
    run.Cadence period stop where
  first := h.startedAt_first
  disjoint := h.disjoint
  spaced := h.spaced
  noBurst := by
    intro hlong i a b ha hb
    have hspaced : a.startedAt.nanos + 1 * period.nanos ≤ b.startedAt.nanos +
        Ticker.tolerance.nanos := h.spaced ha hb
    rw [Duration.lt_iff] at hlong ⊢
    omega
  prompt := fun ha hb hlong => h.startedAt_le_wholeMillis ha hb hlong
  atOnce := fun ha hb hlong => h.startedAt_eq_endedAt ha hb hlong
  punctual := by
    intro k b hb hshort
    exact h.onTime (by decide) (by decide) (fun j => Duration.wholeMillis_lt _) hb hshort
  exact := by
    intro hdvd k b hb hshort
    -- all timers go off when they are due, so there is no slack
    have htimers : ∀ j : Nat, (Duration.wholeMillis ⟨j * period.nanos⟩).nanos < j *
        period.nanos + 1 := by
      intro j
      rw [Duration.wholeMillis_of_dvd (Nat.dvd_mul_left_of_dvd hdvd j)]
      exact Nat.lt_succ_self _
    have htime := h.onTime Nat.one_pos (by decide) htimers hb hshort
    omega
  begins := hbegins
  continues := hcontinues

/-- **The cadence is strict** if the period is longer than the tolerance, and it and all cycles take
whole milliseconds. -/
theorem LoopRun.Cadence.strict {run : LoopRun σ} {period stop : Duration}
    (h : run.Cadence period stop) (hlong : Ticker.tolerance < period)
    (hperiod : Duration.millisecond ∣ period.nanos)
    (hended : ∀ a ∈ run.turns, Duration.millisecond ∣ a.endedAt.nanos) :
    run.StrictCadence period where
  first := by
    intro a ha
    rw [h.first ha, Duration.wholeMillis_of_dvd hperiod]
  disjoint := h.disjoint
  apart := by
    intro i a b ha hb
    have hspaced : a.startedAt.nanos + 1 * period.nanos ≤ b.startedAt.nanos +
        Ticker.tolerance.nanos := h.spaced ha hb
    rw [Nat.one_mul] at hspaced
    exact hspaced
  atOnce := by
    intro i a b ha hb htook
    have hprompt := h.prompt ha hb (Nat.le_of_lt htook)
    rw [Duration.wholeMillis_of_dvd (hended a (List.mem_of_getElem? ha))] at hprompt
    exact Duration.ext (Nat.le_antisymm hprompt (LoopTurn.endedAt_le_startedAt h.disjoint ha hb))
  noBurst := fun _ hb hc _ => h.noBurst hlong hb hc
  exact := h.exact hperiod

/-! ## Loops -/

namespace Loop

variable {l : Loop σ} {ties : List Bool} {ticker : Ticker} {r : Rebalancer}
  {idle : Duration} {s : σ} {run : LoopRun σ}

/-- The ticker of a loop drives its cycles. -/
theorem Runs.drives (h : l.Runs ties ticker r idle s run) : ticker.Drives idle run.turns := by
  induction h with
  | ends => exact trivial
  | turns hnext _ ih =>
    obtain ⟨rfl, hafter, -⟩ := next_eq_turns hnext
    obtain rfl := Ticker.eq_of_next? hafter
    exact ⟨rfl, ih⟩

/-- **A loop starts a cycle** if its next tick goes off before the stop and the clock has room for
one more. -/
theorem Runs.begins (h : l.Runs ties ticker r idle s run)
    (hroom : l.stop + ticker.period ≤ clockEnd) (hlt : ticker.firesAt idle < l.stop) :
    0 < run.turns.length := by
  have hsome := Ticker.isSome_next? (ticker.due_le_firesAt idle) (Nat.le_of_lt hlt) hroom
  obtain ⟨after, hafter⟩ := Option.isSome_iff_exists.1 hsome
  cases h with
  | ends hnext => cases hnext.symm.trans (next_of_lt hlt hafter)
  | turns hnext hrun => exact Nat.succ_pos _

/-- **A loop goes on** after a cycle that ended before the stop, if so does the timer of a period
from its start. -/
theorem Runs.continues {a : LoopTurn} {i : Nat} (h : l.Runs ties ticker r idle s run)
    (hroom : l.stop + ticker.period ≤ clockEnd) (ha : run.turns[i]? = some a)
    (hlt : max a.endedAt (a.startedAt + ticker.period).wholeMillis < l.stop) :
    i + 1 < run.turns.length := by
  induction h generalizing i with
  | ends => cases ha
  | @turns ties rest ticker after r idle fires s run hnext hrun ih =>
    obtain ⟨rfl, hafter, -⟩ := next_eq_turns hnext
    obtain rfl := Ticker.eq_of_next? hafter
    cases i with
    | zero =>
      obtain rfl := Option.some.inj ha
      -- the next tick goes off before the stop, so the rest of the loop begins with it
      have hnext :=
        Ticker.firesAt_next_le (ticker.due_le_firesAt idle)
          (l.turnAt r (ticker.firesAt idle) s).endedAt
      exact Nat.succ_lt_succ (hrun.begins hroom (Nat.lt_of_le_of_lt hnext hlt))
    | succ i => exact Nat.succ_lt_succ (ih hroom ha hlt)

/-- The ticker of a loop drives its cycles from the start. -/
theorem drives_run (l : Loop σ) (ties : List Bool) (r : Rebalancer) (s : σ) :
    Ticker.Drives ⟨r.config.housekeepingInterval, r.config.housekeepingInterval⟩ ⟨0⟩
      (l.run ties r s).turns := by
  rcases l.run_cases r s with ⟨reason, -, hrun⟩ | hruns
  · rw [hrun]
    exact trivial
  · exact (hruns ties).drives

/-- A loop with a period starts if the clock has room for its first tick. -/
theorem runs_run (hperiod : r.config.housekeepingInterval.isZero = false)
    (hroom : l.stop + r.config.housekeepingInterval ≤ clockEnd) :
    l.Runs ties ⟨r.config.housekeepingInterval, r.config.housekeepingInterval⟩ r ⟨0⟩ s
      (l.run ties r s) := by
  rcases l.run_cases r s with ⟨reason, hreason, hrun⟩ | hruns
  · have hended : (l.run ties r s).endedAt ≤ l.stop := by
      rw [hrun]
      exact Nat.zero_le _
    have hstopped := reason_run hperiod hroom hended
    rw [hrun] at hstopped
    exact absurd hstopped hreason
  · exact hruns ties

/-- **Every loop with a period keeps its cadence**, whatever its cycles do and however long they
take. The cadence is strict if the period is longer than the tolerance, and it and all cycles take
whole milliseconds. -/
theorem cadence_run (l : Loop σ) (ties : List Bool) (r : Rebalancer) (s : σ)
    (hperiod : r.config.housekeepingInterval.isZero = false) :
    (l.run ties r s).Cadence r.config.housekeepingInterval l.stop ∧
      (Ticker.tolerance < r.config.housekeepingInterval →
        Duration.millisecond ∣ r.config.housekeepingInterval.nanos →
        (∀ a ∈ (l.run ties r s).turns, Duration.millisecond ∣ a.took.nanos) →
        (l.run ties r s).StrictCadence r.config.housekeepingInterval) := by
  have hdrives := drives_run l ties r s
  have hcadence : (l.run ties r s).Cadence r.config.housekeepingInterval l.stop := by
    refine .of_drives hdrives ?_ ?_
    · intro hroom hlt
      exact (runs_run hperiod hroom).begins hroom (by rwa [Ticker.firesAt_zero])
    · intro hroom i a ha hlt
      exact (runs_run hperiod hroom).continues hroom ha hlt
  refine ⟨hcadence, fun hlong hwhole htook => hcadence.strict hlong hwhole fun a ha => ?_⟩
  exact hdrives.dvd_endedAt (Nat.dvd_zero _) htook ha

/-- A drain of twenty-five seconds moves the cycles of a loop with a period of ten by five. -/
theorem cadence_run_slow :
    let r := every (.ofSeconds 10)
    let run := (watched (.ofSeconds 60)).run [] r (slow (.ofSeconds 25))
    r.config.housekeepingInterval.isZero = false ∧
      run.turns.map LoopTurn.times =
        [(.ofSeconds 10, .ofSeconds 25), (.ofSeconds 35, ⟨0⟩), (.ofSeconds 45, ⟨0⟩),
          (.ofSeconds 55, ⟨0⟩)] ∧
      run.Cadence (.ofSeconds 10) (.ofSeconds 60) ∧ run.StrictCadence (.ofSeconds 10) := by
  intro r run
  have hperiod : r.config.housekeepingInterval.isZero = false := by decide
  have htimes : run.turns.map LoopTurn.times =
      [(.ofSeconds 10, .ofSeconds 25), (.ofSeconds 35, ⟨0⟩), (.ofSeconds 45, ⟨0⟩),
        (.ofSeconds 55, ⟨0⟩)] := by
    decide +kernel
  obtain ⟨hcadence, hstrict⟩ :=
    cadence_run (watched (.ofSeconds 60)) [] r (slow (.ofSeconds 25)) hperiod
  refine ⟨hperiod, htimes, hcadence, hstrict (by decide) (by decide) fun a ha => ?_⟩
  have hwhole : ∀ times ∈ run.turns.map LoopTurn.times, Duration.millisecond ∣ times.2.nanos := by
    rw [htimes]
    decide
  exact hwhole a.times (List.mem_map_of_mem ha)

/-- A period of two milliseconds is within the tolerance: a cycle that took longer is followed by
two at its end. With two and a half, the first cycle waits for the third millisecond. -/
theorem not_strictCadence :
    let short := (watched (.ofMillis 9)).run [] (every (.ofMillis 2)) (slow (.ofMillis 4))
    let uneven := (watched (.ofMillis 9)).run [] (every ⟨2500000⟩) (slow (.ofMillis 4))
    short.turns.map LoopTurn.times =
        [(.ofMillis 2, .ofMillis 4), (.ofMillis 6, ⟨0⟩), (.ofMillis 6, ⟨0⟩), (.ofMillis 8, ⟨0⟩)] ∧
      ¬ short.StrictCadence (.ofMillis 2) ∧
      uneven.turns.map LoopTurn.times =
        [(.ofMillis 3, .ofMillis 4), (.ofMillis 7, ⟨0⟩), (.ofMillis 8, ⟨0⟩)] ∧
      ¬ uneven.StrictCadence ⟨2500000⟩ := by
  intro short uneven
  have hshort : short.turns.map LoopTurn.times =
      [(.ofMillis 2, .ofMillis 4), (.ofMillis 6, ⟨0⟩), (.ofMillis 6, ⟨0⟩), (.ofMillis 8, ⟨0⟩)] := by
    decide +kernel
  have huneven : uneven.turns.map LoopTurn.times =
      [(.ofMillis 3, .ofMillis 4), (.ofMillis 7, ⟨0⟩), (.ofMillis 8, ⟨0⟩)] := by decide +kernel
  refine ⟨hshort, fun hstrict => ?_, huneven, fun hstrict => ?_⟩
  · obtain ⟨a, ha, -, htook⟩ := LoopTurn.exists_of_times hshort (i := 0) rfl
    obtain ⟨b, hb, hsecond, -⟩ := LoopTurn.exists_of_times hshort (i := 1) rfl
    obtain ⟨c, hc, hthird, -⟩ := LoopTurn.exists_of_times hshort (i := 2) rfl
    have hburst := hstrict.noBurst ha hb hc (by rw [htook]; decide)
    rw [hsecond, hthird] at hburst
    exact absurd hburst (by decide)
  · obtain ⟨a, ha, hstart, -⟩ := LoopTurn.exists_of_times huneven (i := 0) rfl
    have hfirst := hstrict.first ha
    rw [hstart] at hfirst
    exact absurd hfirst (by decide)

end Loop

end SpotRebalance
