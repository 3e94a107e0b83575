import SpotRebalance.Proofs.Rebalancer.DrainSafety

/-! # The cooldown over whole runs

A **run** is a list of turns: before each the clock may jump, forwards or backwards, and the cluster
may change in any way. `Rebalancer.history` keeps what each cycle of a run did. Two attempts at
drains keep their distance: the later one starts no sooner than the configured delay after the end
of the drain of the earlier one, however many cycles lie between them (`cooldown_history`).

The invariant is that the end of the cooldown, once set, lies at a given instant or later
(`Rebalancer.Holds`). A cycle keeps it, for whatever instant (`holds_runAt`); an attempt makes it
true of the end of its own cooldown (`holds_of_attempted`); and no cycle attempts a drain before
that instant (`Holds.le_of_attempted`).

Sums stop at the latest instant of the calendar, so this is as far as distances are kept. -/

namespace SpotRebalance

universe u

/-- The circumstances of one cycle of a run. -/
structure Turn (σ : Type u) where
  /-- The environment. -/
  env : Environment σ
  /-- Its state before the cycle. -/
  state : σ
  /-- What the clock shows. -/
  now : Instant

/-- What a cycle of a run did. -/
structure CycleRecord where
  /-- What the clock showed. -/
  now : Instant
  /-- The end of the cooldown before the cycle. -/
  before : Option Instant
  /-- What the cycle reported. -/
  report : CycleReport
  /-- What it asked of its environment. -/
  calls : List Call

namespace CycleRecord

/-- Whether the cycle attempted a drain. -/
def attempted (c : CycleRecord) : Bool := Rebalancer.attempted c.report.result

/-- How long the drain took; a dry run takes no time. -/
def drainTime (c : CycleRecord) : Duration := Call.drainTime c.calls

/-- The end of the cooldown after the cycle. -/
def after (c : CycleRecord) : Option Instant := c.report.rebalancer.nextDrainAt

end CycleRecord

namespace Rebalancer

variable {σ : Type u}

/-- **What the cycles of a run do**, one after the other. -/
def history : Rebalancer → List (Turn σ) → List CycleRecord
  | _, [] => []
  | r, turn :: turns =>
    let report := (r.runAt turn.env turn.now turn.state).answer
    ⟨turn.now, r.nextDrainAt, report, r.calls turn.env turn.now turn.state⟩ ::
      report.rebalancer.history turns

/-! ## One cycle -/

section Cycle

variable {r : Rebalancer} {env : Environment σ} {now : Instant} {s : σ}

/-- A journal without an attempt leaves the end of the cooldown. -/
theorem Transcript.of_not_attempted {calls : List Call} {effect : CycleEffect}
    (h : Transcript r now calls effect) (hidle : attempted effect.result = false) :
    effect.nextDrainAt = r.nextDrainAt := by
  cases h with
  | idle _ _ hkept => exact hkept
  | named _ _ _ hattempted => exact absurd hattempted (by simp [hidle])
  | ordered _ _ _ hattempted => exact absurd hattempted (by simp [hidle])

/-- A journal with an attempt starts when no cooldown lasts, and a new one starts at the end of its
drain. -/
theorem Transcript.of_attempted {calls : List Call} {effect : CycleEffect}
    (h : Transcript r now calls effect) (hattempted : attempted effect.result = true) :
    (∀ next, r.nextDrainAt = some next → next ≤ now) ∧
      effect.nextDrainAt = some (r.cooldownEnd now (Call.drainTime calls)) := by
  cases h with
  | idle _ hidle => exact absurd hidle (by simp [hattempted])
  | named hready _ _ _ hnext =>
    rw [Call.drainTime_listings]
    exact ⟨coolingUntil?_eq_none_iff.1 hready, hnext⟩
  | ordered hready _ _ _ hnext =>
    rw [Call.drainTime_listings_drain]
    exact ⟨coolingUntil?_eq_none_iff.1 hready, hnext⟩

/-- **Only an attempt moves the end of the cooldown.** -/
theorem runAt_of_not_attempted (h : attempted (r.runAt env now s).answer.result = false) :
    (r.runAt env now s).answer.rebalancer.nextDrainAt = r.nextDrainAt :=
  (transcript_cycle r env now s).of_not_attempted h

/-- **An attempt is made when no cooldown lasts, and starts one** at the end of its drain. -/
theorem runAt_of_attempted (h : attempted (r.runAt env now s).answer.result = true) :
    (∀ next, r.nextDrainAt = some next → next ≤ now) ∧
      (r.runAt env now s).answer.rebalancer.nextDrainAt =
        some (r.cooldownEnd now (Call.drainTime (r.calls env now s))) :=
  (transcript_cycle r env now s).of_attempted h

/-- A cooldown that starts now does not end before now, unless the calendar does. -/
theorem min_latest_le_cooldownEnd (r : Rebalancer) (now : Instant) (elapsed : Duration) :
    min Instant.latest (now.shift (elapsed + r.config.nodeDrainDelay)) ≤
      r.cooldownEnd now elapsed :=
  Instant.min_latest_shift_add_le_after_after ..

/-- **The cooldown lasts until an instant at least**, or until the calendar ends. -/
def Holds (r : Rebalancer) (t : Instant) : Prop :=
  ∃ next, r.nextDrainAt = some next ∧ min Instant.latest t ≤ next

/-- An attempt makes the cooldown last until the delay after its drain is over. -/
theorem holds_of_attempted (h : attempted (r.runAt env now s).answer.result = true) :
    (r.runAt env now s).answer.rebalancer.Holds
      (now.shift (Call.drainTime (r.calls env now s) + r.config.nodeDrainDelay)) :=
  ⟨_, (runAt_of_attempted h).2, r.min_latest_le_cooldownEnd ..⟩

/-- No drain is attempted while the cooldown lasts. -/
theorem Holds.le_of_attempted {t : Instant} (hholds : r.Holds t)
    (h : attempted (r.runAt env now s).answer.result = true) : min Instant.latest t ≤ now := by
  obtain ⟨next, hnext, hle⟩ := hholds
  exact hle.trans ((runAt_of_attempted h).1 next hnext)

/-- **The end of the cooldown never goes back.** It could only from beyond the end of the
calendar. -/
theorem nextDrainAt_runAt {next : Instant} (hnext : r.nextDrainAt = some next) :
    ∃ later, (r.runAt env now s).answer.rebalancer.nextDrainAt = some later ∧
      min Instant.latest next ≤ later ∧
      (now ≤ Instant.latest → next ≤ later) := by
  cases h : attempted (r.runAt env now s).answer.result with
  | false =>
    exact ⟨next, by rw [runAt_of_not_attempted h, hnext], min_le_right .., fun _ => le_refl next⟩
  | true =>
    obtain ⟨hready, hlater⟩ := runAt_of_attempted h
    -- the old cooldown is over by now, and the new one starts now
    have hnow := hready next hnext
    refine ⟨_, hlater, le_trans (le_min (min_le_left ..) ?_) (r.min_latest_le_cooldownEnd ..),
      fun hcalendar => ?_⟩
    · exact (min_le_right ..).trans (hnow.trans (Instant.le_shift ..))
    · have hdrained := Instant.after_le_latest hcalendar (Call.drainTime (r.calls env now s))
      exact hnow.trans ((Instant.le_after hcalendar _).trans (Instant.le_after hdrained _))

/-- **A cycle keeps the cooldown**: it may set a later end, but no earlier one. -/
theorem holds_runAt {t : Instant} (hholds : r.Holds t) :
    (r.runAt env now s).answer.rebalancer.Holds t := by
  obtain ⟨next, hnext, hle⟩ := hholds
  obtain ⟨later, hlater, hnever, -⟩ := nextDrainAt_runAt hnext
  exact ⟨later, hlater, (le_min (min_le_left ..) hle).trans hnever⟩

end Cycle

/-! ## Runs -/

/-- No cycle of a run attempts a drain while the cooldown before the run lasts. -/
theorem Holds.le_of_mem_history {r : Rebalancer} {t : Instant} (hholds : r.Holds t)
    {turns : List (Turn σ)} {c : CycleRecord} (hc : c ∈ r.history turns)
    (hattempted : c.attempted) : min Instant.latest t ≤ c.now := by
  induction turns generalizing r with
  | nil => cases hc
  | cons turn turns ih =>
    -- the cycle itself comes too early for an attempt, and leaves the cooldown to the cycles after
    -- it
    rcases List.mem_cons.1 hc with rfl | hc
    · exact hholds.le_of_attempted hattempted
    · exact ih (holds_runAt hholds) hc

/-- **Attempts keep their distance.** Of two cycles of a run that attempt a drain, the later one
starts no sooner than the delay after the end of the drain of the earlier one. -/
theorem pairwise_history (r : Rebalancer) (turns : List (Turn σ)) :
    (r.history turns).Pairwise fun a b => a.attempted → b.attempted →
      min Instant.latest (a.now.shift (a.drainTime + r.config.nodeDrainDelay)) ≤ b.now := by
  induction turns generalizing r with
  | nil => exact .nil
  | cons turn turns ih =>
    -- an attempt of the first cycle sets a cooldown that holds for all the others
    refine .cons ?_ (ih (r.runAt turn.env turn.now turn.state).answer.rebalancer)
    intro b hb hfirst hlater
    exact (holds_of_attempted hfirst).le_of_mem_history hb hlater

/-- **The cooldown over whole runs.** Whatever the clock shows and whatever happens to the cluster
between cycles, of two cycles that attempt a drain the later one starts no sooner than the delay
after the end of the drain of the earlier one. Only attempts move the end of the cooldown, and never
back. -/
theorem cooldown_history (r : Rebalancer) (turns : List (Turn σ)) :
    ((r.history turns).Pairwise fun a b => a.attempted → b.attempted →
        min Instant.latest (a.now.shift (a.drainTime + r.config.nodeDrainDelay)) ≤ b.now) ∧
      ∀ c ∈ r.history turns, (c.attempted = false → c.after = c.before) ∧
        ∀ next, c.before = some next → ∃ later, c.after = some later ∧
          min Instant.latest next ≤ later ∧
          (c.now ≤ Instant.latest → next ≤ later) := by
  refine ⟨pairwise_history r turns, ?_⟩
  induction turns generalizing r with
  | nil => simp [history]
  | cons turn turns ih =>
    intro c hc
    rcases List.mem_cons.1 hc with rfl | hc
    · exact ⟨runAt_of_not_attempted, fun next hnext => nextDrainAt_runAt hnext⟩
    · exact ih _ c hc

/-- A run of three cycles: the first drains for five seconds, the second falls into the cooldown,
and the third starts as soon as the cooldown is over. -/
theorem cooldown_history_movable :
    let turns : List (Turn LocalCluster) := [⟨LocalCluster.environment, movable, ⟨0, 0⟩⟩,
      ⟨LocalCluster.environment, movable, ⟨300, 0⟩⟩, ⟨LocalCluster.environment, movable, ⟨605, 0⟩⟩]
    let run := (Rebalancer.new {} {}).history turns
    run.map (·.attempted) = [true, false, true] ∧
      run.map (·.after) = [some ⟨605, 0⟩, some ⟨605, 0⟩, some ⟨1210, 0⟩] ∧
      run.Pairwise fun a b => a.attempted → b.attempted →
        min Instant.latest (a.now.shift (a.drainTime + .ofSeconds 600)) ≤ b.now := by
  intro turns run
  have hattempted : run.map (·.attempted) = [true, false, true] := by with_unfolding_all rfl
  have hafter : run.map (·.after) = [some ⟨605, 0⟩, some ⟨605, 0⟩, some ⟨1210, 0⟩] := by
    with_unfolding_all rfl
  exact ⟨hattempted, hafter, (cooldown_history (Rebalancer.new {} {}) turns).1⟩

end Rebalancer

end SpotRebalance
