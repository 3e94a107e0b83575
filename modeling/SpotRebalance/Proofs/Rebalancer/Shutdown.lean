import SpotRebalance.Proofs.Rebalancer.LoopCourse

/-! # Stopping a loop

A loop heeds the stop (`LoopRun.HeedsStop`) if no cycle starts at the stop or after it, a cycle in
progress is finished, and the loop ends at whichever of the two comes later. A loop in which every
tie goes to the stop does so, if the clock does not end it before. When such a loop ends, the next
tick may be ready as well (`LoopRun.TickReady`): it comes at the time of the stop, or its time
passed during the last cycle. Exactly then the first choice matters, and a loop whose first choice
is the tick starts one more cycle, which may drain a node (`Loop.heedsStop_run_iff`,
`Loop.not_heedsStop`). -/

namespace SpotRebalance

universe u

variable {σ : Type u}

/-- When a loop is idle again that was idle since a reading and then ran some cycles. -/
def LoopTurn.idleAfter (idle : Duration) (turns : List LoopTurn) : Duration :=
  turns.foldl (fun _ turn => turn.endedAt) idle

/-- The ticker after some cycles. -/
def Ticker.afterTurns (t : Ticker) (turns : List LoopTurn) : Ticker :=
  turns.foldl (fun t turn => ⟨t.period, t.dueAfter turn.startedAt⟩) t

namespace LoopRun

variable {run : LoopRun σ} {turn : LoopTurn} {ticker : Ticker} {idle stop : Duration}

/-- **A loop heeds the stop** that has been idle since a reading. -/
structure HeedsStop (run : LoopRun σ) (idle stop : Duration) : Prop where
  /-- It ends because it was told to. -/
  stopped : run.reason = .stopped
  /-- No cycle starts at the stop or after it. -/
  starts : ∀ turn ∈ run.turns, turn.startedAt < stop
  /-- Every cycle is run to its end. -/
  finishes : ∀ turn ∈ run.turns, turn.endedAt ≤ run.endedAt
  /-- It ends at the stop, or at the end of the last cycle if that comes later. -/
  ends : run.endedAt = max (LoopTurn.idleAfter idle run.turns) stop

/-- **The next tick is ready** when a loop ends that has been idle since a reading. -/
def TickReady (run : LoopRun σ) (ticker : Ticker) (idle : Duration) : Prop :=
  (ticker.afterTurns run.turns).firesAt (LoopTurn.idleAfter idle run.turns) ≤ run.endedAt

/-- A loop that starts a cycle before the stop heeds it if it does so after that cycle. -/
theorem heedsStop_cons_iff (hstart : turn.startedAt < stop) (hend : turn.endedAt ≤ run.endedAt) :
    HeedsStop { run with turns := turn :: run.turns } idle stop ↔
      run.HeedsStop turn.endedAt stop := by
  constructor
  · intro h
    exact ⟨h.stopped, fun later hlater => h.starts later (List.mem_cons_of_mem _ hlater),
      fun later hlater => h.finishes later (List.mem_cons_of_mem _ hlater), h.ends⟩
  · intro h
    refine ⟨h.stopped, ?_, ?_, h.ends⟩
    · intro later hlater
      rcases List.mem_cons.1 hlater with rfl | hlater
      · exact hstart
      · exact h.starts later hlater
    · intro later hlater
      rcases List.mem_cons.1 hlater with rfl | hlater
      · exact hend
      · exact h.finishes later hlater

/-- The ticker goes on from the cycles before. -/
theorem tickReady_cons_iff :
    TickReady { run with turns := turn :: run.turns } ticker idle ↔
      run.TickReady ⟨ticker.period, ticker.dueAfter turn.startedAt⟩ turn.endedAt := Iff.rfl

end LoopRun

namespace Loop

variable {l : Loop σ} {ties : List Bool} {ticker : Ticker} {r : Rebalancer}
  {idle : Duration} {s : σ} {run : LoopRun σ}

/-- No loop ends before it is idle. -/
theorem Runs.idle_le_endedAt (h : l.Runs ties ticker r idle s run) : idle ≤ run.endedAt := by
  induction h with
  | @ends ties ticker r idle s reading reason hnext =>
    rcases next_eq_ends hnext with ⟨-, rfl, -⟩ | ⟨-, rfl, -⟩
    · rw [Duration.le_iff, Duration.nanos_max]
      exact Nat.le_max_left ..
    · exact ticker.idle_le_firesAt idle
  | @turns ties rest ticker after r idle fires s run hnext hrun ih =>
    obtain ⟨rfl, -⟩ := next_eq_turns hnext
    have hended : ticker.firesAt idle ≤ (l.turnAt r (ticker.firesAt idle) s).endedAt :=
      Nat.le_add_right _ _
    exact Nat.le_trans (ticker.idle_le_firesAt idle) (Nat.le_trans hended ih)

/-- A loop without choices stops when it can. -/
theorem Runs.eq_of_ready (h : l.Runs [] ticker r idle s run)
    (hready : max idle l.stop ≤ ticker.firesAt idle) :
    run = ⟨[], max idle l.stop, .stopped, r, l.env.wait (max idle l.stop) s⟩ := by
  have hstops := next_of_ready hready
  cases h with
  | ends hnext =>
    obtain ⟨rfl, rfl⟩ := Next.ends.inj (hnext.symm.trans hstops)
    rfl
  | turns hnext => cases hnext.symm.trans hstops

/-- If a tick goes off when a loop without choices stops then the tick is ready at its end. -/
theorem Runs.tickReady_of_eq (h : l.Runs [] ticker r idle s run)
    (heq : ticker.firesAt idle = max idle l.stop) :
    run.TickReady ticker idle := by
  rw [h.eq_of_ready (Nat.le_of_eq (congrArg Duration.nanos heq.symm))]
  exact Nat.le_of_eq (congrArg Duration.nanos heq)

/-- **Two loops with different choices** part at the first tie: the one without choices stops there,
and the other one heeds the stop unless its first choice is the tick. -/
theorem Runs.heedsStop_iff {halted : LoopRun σ} (h : l.Runs ties ticker r idle s run)
    (hhalted : l.Runs [] ticker r idle s halted) :
    run.HeedsStop idle l.stop ↔
      halted.reason = .stopped ∧ (halted.TickReady ticker idle → ties.head? ≠ some true) := by
  induction h generalizing halted with
  | @ends ties ticker r idle s reading reason hnext =>
    rcases next_eq_ends hnext with ⟨rfl, rfl, hready, htie⟩ | ⟨rfl, rfl, hnone, hlt | ⟨heq, hhead⟩⟩
    · -- both stop
      rw [hhalted.eq_of_ready hready]
      refine ⟨fun _ => ⟨rfl, fun htick => htie (Duration.ext (Nat.le_antisymm htick hready))⟩,
        fun _ => ?_⟩
      exact ⟨rfl, fun _ h => (nomatch h), fun _ h => (nomatch h), rfl⟩
    · -- both end because of the clock
      have hends : halted.reason = .clockExhausted := by
        have hexhausted : l.next [] ticker idle = .ends (ticker.firesAt idle) .clockExhausted :=
          next_of_lt_of_none hlt hnone
        cases hhalted with
        | ends hnext => exact (Next.ends.inj (hnext.symm.trans hexhausted)).2
        | turns hnext => cases hnext.symm.trans hexhausted
      exact ⟨fun h => (nomatch h.stopped), fun h => (nomatch hends.symm.trans h.1)⟩
    · exact ⟨fun h => (nomatch h.stopped), fun h =>
        absurd hhead (h.2 (hhalted.tickReady_of_eq heq))⟩
  | @turns ties rest ticker after r idle fires s run hnext hrun ih =>
    obtain ⟨rfl, hafter, ⟨hlt, rfl⟩ | ⟨heq, hhead, rfl⟩⟩ := next_eq_turns hnext
    · -- both run the cycle
      rw [LoopRun.heedsStop_cons_iff hlt hrun.idle_le_endedAt]
      have hturns : l.next [] ticker idle = .turns (ticker.firesAt idle) after [] :=
        next_of_lt hlt hafter
      cases hhalted with
      | ends hnext => cases hnext.symm.trans hturns
      | turns hnext hrest =>
        obtain ⟨rfl, rfl, rfl⟩ := Next.turns.inj (hnext.symm.trans hturns)
        obtain rfl := Ticker.eq_of_next? hafter
        have hlater := ih hrest
        rwa [LoopRun.tickReady_cons_iff, startedAt_turnAt]
    · -- one runs a cycle at the stop or after it
      refine ⟨fun h => ?_, fun h => absurd hhead (h.2 (hhalted.tickReady_of_eq heq))⟩
      have hstart : ticker.firesAt idle < l.stop := h.starts _ List.mem_cons_self
      have hstop : l.stop.nanos ≤ (max idle l.stop).nanos := by
        rw [Duration.nanos_max]
        exact Nat.le_max_right ..
      rw [heq] at hstart
      exact absurd hstart (Nat.not_lt.2 hstop)

/-- **A loop heeds the stop, whatever its cycles do and however long they take, exactly if** the
clock does not end it and its first choice is not the tick when with the stop a tick is ready. -/
theorem heedsStop_run_iff (l : Loop σ) (ties : List Bool) (r : Rebalancer) (s : σ) :
    (l.run ties r s).HeedsStop ⟨0⟩ l.stop ↔
      (l.run [] r s).reason = .stopped ∧
        ((l.run [] r s).TickReady ⟨r.config.housekeepingInterval,
          r.config.housekeepingInterval⟩ ⟨0⟩ →
          ties.head? ≠ some true) := by
  rcases l.run_cases r s with ⟨reason, hreason, hrun⟩ | hruns
  · rw [hrun, hrun]
    exact ⟨fun h => absurd h.stopped hreason, fun h => absurd h.1 hreason⟩
  · exact (hruns ties).heedsStop_iff (hruns [])

/-- **Loops start cycles after they were told to stop.** One was told during a drain, and takes the
tick that was missed meanwhile; one is told when the first tick goes off, and drains a node. -/
theorem not_heedsStop :
    let overdue :=
  (watched (.ofMillis 12500)).run [true] (every (.ofSeconds 10)) (slow (.ofSeconds 25))
    let coinciding :=
      (watched (.ofSeconds 10)).run [true] (every (.ofSeconds 10)) (slow (.ofSeconds 25))
    overdue.turns.map LoopTurn.times = [(.ofSeconds 10, .ofSeconds 25), (.ofSeconds 35, ⟨0⟩)] ∧
      ¬ overdue.HeedsStop ⟨0⟩ (.ofMillis 12500) ∧
      coinciding.turns.map LoopTurn.times = [(.ofSeconds 10, .ofSeconds 25)] ∧
      coinciding.state.cluster.drainedNodes = ["worker"] ∧
      ¬ coinciding.HeedsStop ⟨0⟩ (.ofSeconds 10) := by
  intro overdue coinciding
  have hoverdue : overdue.turns.map LoopTurn.times =
      [(.ofSeconds 10, .ofSeconds 25), (.ofSeconds 35, ⟨0⟩)] := by
    decide +kernel
  have hcoinciding : coinciding.turns.map LoopTurn.times = [(.ofSeconds 10, .ofSeconds 25)] := by
    decide +kernel
  refine ⟨hoverdue, fun hheeds => ?_, hcoinciding, by decide +kernel, fun hheeds => ?_⟩
  · obtain ⟨turn, hturn, hstart, -⟩ := LoopTurn.exists_of_times hoverdue (i := 1) rfl
    have hbefore := hheeds.starts turn (List.mem_of_getElem? hturn)
    rw [hstart] at hbefore
    exact absurd hbefore (by decide)
  · obtain ⟨turn, hturn, hstart, -⟩ := LoopTurn.exists_of_times hcoinciding (i := 0) rfl
    have hbefore := hheeds.starts turn (List.mem_of_getElem? hturn)
    rw [hstart] at hbefore
    exact absurd hbefore (by decide)

end Loop

end SpotRebalance
