import SpotRebalance.LocalCluster.Watched
import SpotRebalance.Proofs.Clock.Timers
import SpotRebalance.Proofs.Rebalancer.ClockRange
import SpotRebalance.Proofs.Rebalancer.DrainSafety

/-! # The course of a loop

A loop is run with a bound on the number of its cycles. The bound is never what ends it: each tick
is due at least a period after the one before, and a tick that is taken when the loop could stop
uses up a choice. So a loop goes on as if there were no bound (`Loop.Runs`, `runs_runFrom`), and
what holds of all loops is proved by induction on that.

What a loop does next is read off the tick and the stop (`next_eq_turns`, `next_eq_ends`): it takes
the tick if that goes off first, or if both are ready and the first choice is the tick. The other
way round, a tick before the stop is always taken (`next_of_lt`), and a stop that is ready is taken
by a loop without choices (`next_of_ready`). -/

namespace SpotRebalance

open Duration (clockEnd)

universe u

variable {σ : Type u}

/-! ## Ticks -/

namespace Ticker

variable {t t' : Ticker} {fired idle : Duration}

/-- When the next tick is due after one that went off at a reading. -/
def dueAfter (t : Ticker) (fired : Duration) : Duration :=
  (if t.due + tolerance < fired then fired else t.due) + t.period

/-- After a tick that is late the next one is due a period after it went off. -/
theorem dueAfter_of_lt (h : t.due + tolerance < fired) : t.dueAfter fired = fired + t.period := by
  rw [dueAfter, if_pos h]

/-- After any other tick the next one is due a period after it was due. -/
theorem dueAfter_of_le (h : fired ≤ t.due + tolerance) : t.dueAfter fired = t.due + t.period := by
  have hintime : ¬ t.due + tolerance < fired := Nat.not_lt.2 h
  rw [dueAfter, if_neg hintime]

/-- The next tick is due when it should be. -/
theorem eq_of_next? (h : t.next? fired = some t') : t' = ⟨t.period, t.dueAfter fired⟩ := by
  obtain ⟨due, hdue, rfl⟩ := Option.map_eq_some_iff.1 h
  rw [Duration.eq_of_later? hdue]
  rfl

/-- No tick goes off before the loop is idle. -/
theorem idle_le_firesAt (t : Ticker) (idle : Duration) : idle ≤ t.firesAt idle := by
  rw [Duration.le_iff, firesAt, Duration.nanos_max]
  exact Nat.le_max_left ..

/-- Ticks are due at least a period apart. -/
theorem due_add_period_le (t : Ticker) (fired : Duration) :
    t.due + t.period ≤ t.dueAfter fired := by
  by_cases hlate : t.due + tolerance < fired
  · have hdue : t.due ≤ fired := Nat.le_of_lt (Nat.lt_of_le_of_lt (Nat.le_add_right _ _) hlate)
    rw [dueAfter_of_lt hlate]
    exact Nat.add_le_add_right hdue _
  · rw [dueAfter_of_le (Nat.le_of_not_lt hlate)]
    exact Nat.le_refl _

/-- The next tick is due a period after a tick went off, less at most the tolerance. -/
theorem add_period_le_dueAfter (t : Ticker) (fired : Duration) :
    fired + t.period ≤ t.dueAfter fired + tolerance := by
  by_cases hlate : t.due + tolerance < fired
  · rw [dueAfter_of_lt hlate]
    exact Nat.le_add_right _ _
  · rw [dueAfter_of_le (Nat.le_of_not_lt hlate)]
    rw [Duration.lt_iff, Duration.nanos_add] at hlate
    rw [Duration.le_iff, Duration.nanos_add, Duration.nanos_add, Duration.nanos_add]
    omega

/-- The next tick is due at the latest a period after a tick went off. -/
theorem dueAfter_le (h : t.due ≤ fired) : t.dueAfter fired ≤ fired + t.period := by
  by_cases hlate : t.due + tolerance < fired
  · rw [dueAfter_of_lt hlate]
    exact Nat.le_refl _
  · rw [dueAfter_of_le (Nat.le_of_not_lt hlate)]
    exact Nat.add_le_add_right h _

end Ticker

/-! ## What a loop does next -/

namespace Loop

variable {l : Loop σ} {ties rest : List Bool} {ticker after : Ticker} {idle fires : Duration}

/-- A tick is taken if it goes off before the stop, or at the same time and the first choice is the
tick. -/
theorem takesTick_cases (fires halts : Duration) (ties : List Bool) :
    (fires < halts ∧ takesTick fires halts ties = (true, ties)) ∨
      (fires = halts ∧ ties.head? = some true ∧ takesTick fires halts ties = (true, ties.tail)) ∨
      (halts ≤ fires ∧ (fires = halts → ties.head? ≠ some true) ∧
        ∃ rest, takesTick fires halts ties = (false, rest)) := by
  rw [takesTick]
  by_cases hbefore : fires < halts
  · rw [if_pos hbefore]
    exact Or.inl ⟨hbefore, rfl⟩
  rw [if_neg hbefore]
  right
  have hle : halts ≤ fires := Nat.le_of_not_lt hbefore
  by_cases hafter : halts < fires
  · rw [if_pos hafter]
    refine Or.inr ⟨hle, fun heq => ?_, _, rfl⟩
    rw [heq] at hafter
    exact absurd hafter (Nat.lt_irrefl _)
  · rw [if_neg hafter]
    have heq : fires = halts := Duration.ext (Nat.le_antisymm (Nat.le_of_not_lt hafter) hle)
    cases hhead : ties.head? with
    | none => exact Or.inr ⟨hle, by simp, _, rfl⟩
    | some choice =>
      cases choice with
      | true => exact Or.inl ⟨heq, rfl, rfl⟩
      | false => exact Or.inr ⟨hle, by simp, _, rfl⟩

/-- A tick that goes off before the loop may stop goes off before the stop. -/
theorem firesAt_lt_stop (h : ticker.firesAt idle < max idle l.stop) :
    ticker.firesAt idle < l.stop := by
  have hidle : idle.nanos ≤ (ticker.firesAt idle).nanos := ticker.idle_le_firesAt idle
  rw [Duration.lt_iff, Duration.nanos_max] at h
  rw [Duration.lt_iff]
  omega

/-- A loop that does not take the tick is stopped. -/
theorem next_of_not_takes
    (htakes : takesTick (ticker.firesAt idle) (max idle l.stop) ties = (false, rest)) :
    l.next ties ticker idle = .ends (max idle l.stop) .stopped := by
  rw [next, htakes]
  rfl

/-- A loop that takes the tick ends if there is no next one. -/
theorem next_of_next?_eq_none
    (htakes : takesTick (ticker.firesAt idle) (max idle l.stop) ties = (true, rest))
    (hnext : ticker.next? (ticker.firesAt idle) = none) :
    l.next ties ticker idle = .ends (ticker.firesAt idle) .clockExhausted := by
  rw [next, htakes, hnext]
  rfl

/-- A loop that takes the tick runs a cycle if there is a next one. -/
theorem next_of_next?_eq_some
    (htakes : takesTick (ticker.firesAt idle) (max idle l.stop) ties = (true, rest))
    (hnext : ticker.next? (ticker.firesAt idle) = some after) :
    l.next ties ticker idle = .turns (ticker.firesAt idle) after rest := by
  rw [next, htakes, hnext]
  rfl

/-- A tick that goes off before the stop is taken, and no choice is used up. -/
theorem takesTick_of_lt (hlt : ticker.firesAt idle < l.stop) :
    takesTick (ticker.firesAt idle) (max idle l.stop) ties = (true, ties) := by
  have hbefore : ticker.firesAt idle < max idle l.stop := by
    rw [Duration.lt_iff, Duration.nanos_max]
    exact Nat.lt_of_lt_of_le hlt (Nat.le_max_right ..)
  rw [takesTick, if_pos hbefore]

/-- Before the stop a loop runs a cycle if there is a next tick. -/
theorem next_of_lt (hlt : ticker.firesAt idle < l.stop)
    (hnext : ticker.next? (ticker.firesAt idle) = some after) :
    l.next ties ticker idle = .turns (ticker.firesAt idle) after ties :=
  next_of_next?_eq_some (takesTick_of_lt hlt) hnext

/-- **A loop runs a cycle** when a tick goes off before the stop, or at the same time and is
chosen. -/
theorem next_eq_turns (h : l.next ties ticker idle = .turns fires after rest) :
    fires = ticker.firesAt idle ∧ ticker.next? fires = some after ∧
      ((fires < l.stop ∧ rest = ties) ∨
        (fires = max idle l.stop ∧ ties.head? = some true ∧ rest = ties.tail)) := by
  have htaken : ∀ {kept}, takesTick (ticker.firesAt idle) (max idle l.stop) ties = (true, kept) →
      fires = ticker.firesAt idle ∧ ticker.next? fires = some after ∧ rest = kept := by
    intro kept htakes
    cases hnext : ticker.next? (ticker.firesAt idle) with
    | none => cases h.symm.trans (next_of_next?_eq_none htakes hnext)
    | some later =>
      obtain ⟨rfl, rfl, rfl⟩ := Next.turns.inj (h.symm.trans (next_of_next?_eq_some htakes hnext))
      exact ⟨rfl, hnext, rfl⟩
  rcases takesTick_cases (ticker.firesAt idle) (max idle l.stop) ties with
    ⟨hlt, htakes⟩ | ⟨heq, hhead, htakes⟩ | ⟨-, -, _, htakes⟩
  · obtain ⟨rfl, hafter, rfl⟩ := htaken htakes
    exact ⟨rfl, hafter, Or.inl ⟨firesAt_lt_stop hlt, rfl⟩⟩
  · obtain ⟨rfl, hafter, rfl⟩ := htaken htakes
    exact ⟨rfl, hafter, Or.inr ⟨heq, hhead, rfl⟩⟩
  · cases h.symm.trans (next_of_not_takes htakes)

/-- **A loop ends** when it takes the stop, or when it takes a tick after which the clock cannot
reach the next. -/
theorem next_eq_ends {reading : Duration} {reason : LoopEnd}
    (h : l.next ties ticker idle = .ends reading reason) :
    (reason = .stopped ∧ reading = max idle l.stop ∧ max idle l.stop ≤ ticker.firesAt idle ∧
        (ticker.firesAt idle = max idle l.stop → ties.head? ≠ some true)) ∨
      (reason = .clockExhausted ∧ reading = ticker.firesAt idle ∧ ticker.next? reading = none ∧
        (reading < l.stop ∨ (reading = max idle l.stop ∧ ties.head? = some true))) := by
  have hexhausted : ∀ {kept},
      takesTick (ticker.firesAt idle) (max idle l.stop) ties = (true, kept) →
      reason = .clockExhausted ∧ reading = ticker.firesAt idle ∧ ticker.next? reading = none := by
    intro kept htakes
    cases hnext : ticker.next? (ticker.firesAt idle) with
    | none =>
      obtain ⟨rfl, rfl⟩ := Next.ends.inj (h.symm.trans (next_of_next?_eq_none htakes hnext))
      exact ⟨rfl, rfl, hnext⟩
    | some later => cases h.symm.trans (next_of_next?_eq_some htakes hnext)
  rcases takesTick_cases (ticker.firesAt idle) (max idle l.stop) ties with
    ⟨hlt, htakes⟩ | ⟨heq, hhead, htakes⟩ | ⟨hready, htie, _, htakes⟩
  · obtain ⟨hreason, rfl, hnone⟩ := hexhausted htakes
    exact Or.inr ⟨hreason, rfl, hnone, Or.inl (firesAt_lt_stop hlt)⟩
  · obtain ⟨hreason, rfl, hnone⟩ := hexhausted htakes
    exact Or.inr ⟨hreason, rfl, hnone, Or.inr ⟨heq, hhead⟩⟩
  · obtain ⟨rfl, rfl⟩ := Next.ends.inj (h.symm.trans (next_of_not_takes htakes))
    exact Or.inl ⟨rfl, rfl, hready, htie⟩

/-- Without a choice a stop that is ready is taken. -/
theorem next_of_ready (hready : max idle l.stop ≤ ticker.firesAt idle) :
    l.next [] ticker idle = .ends (max idle l.stop) .stopped := by
  rcases takesTick_cases (ticker.firesAt idle) (max idle l.stop) []
    with ⟨hlt, -⟩ | ⟨-, hhead, -⟩ | ⟨-, -, _, htakes⟩
  · exact absurd hready (Nat.not_le.2 hlt)
  · cases hhead
  · exact next_of_not_takes htakes

/-- A tick that goes off before the stop ends a loop whatever the choices if there is no next
one. -/
theorem next_of_lt_of_none (hlt : ticker.firesAt idle < l.stop)
    (hnext : ticker.next? (ticker.firesAt idle) = none) :
    l.next ties ticker idle = .ends (ticker.firesAt idle) .clockExhausted :=
  next_of_next?_eq_none (takesTick_of_lt hlt) hnext

end Loop

/-! ## Loops without a bound -/

namespace LoopTurn

/-- When the cycle ended. -/
def endedAt (turn : LoopTurn) : Duration := turn.startedAt + turn.took

/-- When the cycle started and how long it took. -/
def times (turn : LoopTurn) : Duration × Duration := (turn.startedAt, turn.took)

/-- The cycle that took its time. -/
theorem exists_of_times {turns : List LoopTurn} {times : List (Duration × Duration)} {i : Nat}
    {start took : Duration} (h : turns.map LoopTurn.times = times)
    (hi : times[i]? = some (start, took)) :
    ∃ a, turns[i]? = some a ∧ a.startedAt = start ∧ a.took = took := by
  rw [← h, List.getElem?_map, Option.map_eq_some_iff] at hi
  obtain ⟨a, ha, htimes⟩ := hi
  obtain ⟨hstart, htook⟩ := Prod.mk.inj htimes
  exact ⟨a, ha, hstart, htook⟩

end LoopTurn

namespace Loop

/-- What comes of the cycle that a loop runs at a reading. -/
def replyAt (l : Loop σ) (r : Rebalancer) (reading : Duration) (s : σ) : Reply σ CycleReport :=
  r.runAt l.env.toEnvironment (l.wall reading) (l.env.wait reading s)

/-- The cycle that a loop runs at a reading. -/
def turnAt (l : Loop σ) (r : Rebalancer) (reading : Duration) (s : σ) : LoopTurn :=
  let reply := l.replyAt r reading s
  ⟨reading, reply.took, reply.answer.result, reply.answer.measurements⟩

@[simp] theorem startedAt_turnAt (l : Loop σ) (r : Rebalancer) (reading : Duration) (s : σ) :
    (l.turnAt r reading s).startedAt = reading := rfl

/-- **How a loop goes on** that has been idle since a reading, and what comes of it. -/
inductive Runs (l : Loop σ) :
    List Bool → Ticker → Rebalancer → Duration → σ → LoopRun σ → Prop where
  /-- It ends. -/
  | ends {ties : List Bool} {ticker : Ticker} {r : Rebalancer} {idle : Duration} {s : σ}
      {reading : Duration} {reason : LoopEnd}
      (hnext : l.next ties ticker idle = .ends reading reason) :
      Runs l ties ticker r idle s ⟨[], reading, reason, r, l.env.wait reading s⟩
  /-- It runs a cycle, and goes on when that has ended. -/
  | turns {ties rest : List Bool} {ticker after : Ticker} {r : Rebalancer} {idle fires : Duration}
      {s : σ} {run : LoopRun σ} (hnext : l.next ties ticker idle = .turns fires after rest)
      (hrun : Runs l rest after (l.replyAt r fires s).answer.rebalancer (l.turnAt r fires s).endedAt
        (l.env.publish (l.replyAt r fires s).answer.rebalancer.status
          (l.replyAt r fires s).state) run) :
      Runs l ties ticker r idle s { run with turns := l.turnAt r fires s :: run.turns }

variable {l : Loop σ} {ties : List Bool} {ticker : Ticker} {r : Rebalancer}
  {idle : Duration} {s : σ}

/-- **A loop runs out of cycles before it runs out of fuel.** At most `n` ticks are due before the
stop, and each choice lets at most one more be taken. -/
theorem runs_runFrom {fuel n : Nat} (hfuel : n + ties.length < fuel)
    (hstop : l.stop.nanos < ticker.due.nanos + n * ticker.period.nanos) :
    l.Runs ties ticker r idle s (l.runFrom fuel ties ticker r idle s) := by
  induction fuel generalizing n ties ticker r idle s with
  | zero => omega
  | succ fuel ih =>
    rw [runFrom]
    cases hnext : l.next ties ticker idle with
    | ends reading reason => exact .ends hnext
    | turns fires after rest =>
      refine .turns hnext ?_
      obtain ⟨rfl, hafter, htaken⟩ := next_eq_turns hnext
      have hdue : ticker.due.nanos + ticker.period.nanos ≤
          (ticker.dueAfter (ticker.firesAt idle)).nanos :=
        ticker.due_add_period_le _
      obtain rfl := Ticker.eq_of_next? hafter
      rcases htaken with ⟨hlt, rfl⟩ | ⟨-, hhead, rfl⟩
      · -- one tick less is due before the stop
        have hlate : ticker.due.nanos ≤ (ticker.firesAt idle).nanos := ticker.due_le_firesAt idle
        have hlt : (ticker.firesAt idle).nanos < l.stop.nanos := hlt
        obtain ⟨m, rfl⟩ : ∃ m, n = m + 1 := by
          refine Nat.exists_eq_succ_of_ne_zero fun hzero => ?_
          rw [hzero, Nat.zero_mul] at hstop
          omega
        refine ih (n := m) (by omega) ?_
        rw [Nat.succ_mul] at hstop
        change l.stop.nanos <
          (ticker.dueAfter (ticker.firesAt idle)).nanos + m * ticker.period.nanos
        omega
      · -- one choice less is left
        have hlength : ties.tail.length + 1 = ties.length := by
          cases ties with
          | nil => cases hhead
          | cons => rfl
        refine ih (n := n) (by omega) ?_
        change l.stop.nanos <
          (ticker.dueAfter (ticker.firesAt idle)).nanos + n * ticker.period.nanos
        omega

/-- **Every loop either cannot start or goes on from its first tick**, which is due a period after
the start. -/
theorem run_cases (l : Loop σ) (r : Rebalancer) (s : σ) :
    (∃ reason, reason ≠ .stopped ∧ ∀ ties, l.run ties r s = ⟨[], ⟨0⟩, reason, r, s⟩) ∨
      ∀ ties, l.Runs ties ⟨r.config.housekeepingInterval, r.config.housekeepingInterval⟩ r ⟨0⟩ s
        (l.run ties r s) := by
  by_cases hzero : r.config.housekeepingInterval.isZero = true
  · exact Or.inl ⟨.noPeriod, by simp, fun ties => by simp [run, Ticker.start, hzero]⟩
  cases hfirst : Duration.later? ⟨0⟩ r.config.housekeepingInterval with
  | none =>
    exact Or.inl ⟨.clockExhausted, by simp, fun ties => by simp [run, Ticker.start, hzero, hfirst]⟩
  | some due =>
    refine Or.inr fun ties => ?_
    have hdue : due = r.config.housekeepingInterval :=
      (Duration.eq_of_later? hfirst).trans (Duration.ext (Nat.zero_add _))
    have hpos : 0 < r.config.housekeepingInterval.nanos := by
      simp only [Duration.isZero, beq_iff_eq] at hzero
      omega
    rw [run, Ticker.start, if_neg hzero, hfirst, hdue]
    refine runs_runFrom (n := l.stop.nanos / r.config.housekeepingInterval.nanos) ?_ ?_
    · rw [mostTurns]
      omega
    · have hdiv := Nat.lt_div_mul_add hpos (a := l.stop.nanos)
      change l.stop.nanos < r.config.housekeepingInterval.nanos +
        l.stop.nanos / r.config.housekeepingInterval.nanos * r.config.housekeepingInterval.nanos
      omega

/-! ## Loops of local clusters -/

/-- The loop of a watched cluster that is told to stop at a reading. -/
def watched (stop : Duration) : Loop WatchedCluster :=
  ⟨WatchedCluster.environment, fun _ => ⟨0, 0⟩, stop⟩

/-- A cluster with one node to drain and nobody who watches it. -/
def slow (takes : Duration) : WatchedCluster where
  cluster := { Rebalancer.movable with drainTakes := takes }
  probes := []
  status := {}

/-- A rebalancer that runs a cycle after each period. -/
def every (period : Duration) : Rebalancer := Rebalancer.new { housekeepingInterval := period } {}

end Loop

end SpotRebalance
