import SpotRebalance.Config
import SpotRebalance.Proofs.Eviction.ClockRange
import SpotRebalance.Rebalancer.Loop

/-! # How far the clock lets a configuration run

The spans of a configuration are added to readings of the clock: the interval to the time of a tick,
the time for an eviction to the start of its worker, and the grace period with some headroom to the
end of the evictions. Validation asks only that some of them are not zero, so a sum may lie beyond
the end of the clock. Up to a reading this never happens (`Config.SafeUntil`) exactly if from there
on the clock still has room for each of the three spans (`Config.FitsClock`,
`Config.safeUntil_iff`).

The cooldown is not among them: its end is an instant, and sums of instants stop at the last one. -/

namespace SpotRebalance

open Duration (clockEnd)
open ClusterApi (evictAll awaitDeparture drain drainStarted evictionTask boardAfter)

universe u

variable {σ : Type u}

/-! ## Ticks -/

namespace Ticker

variable {t t' : Ticker} {fired last : Duration}

/-- No tick goes off before it is due. -/
theorem due_le_firesAt (t : Ticker) (idle : Duration) : t.due ≤ t.firesAt idle := by
  change t.due.nanos ≤ (max idle t.due.wholeMillis).nanos
  rw [Duration.nanos_max]
  exact Nat.le_trans (Duration.le_wholeMillis t.due) (Nat.le_max_right ..)

/-- The next tick comes after the same time. -/
theorem period_next? (h : t.next? fired = some t') : t'.period = t.period := by
  obtain ⟨due, -, rfl⟩ := Option.map_eq_some_iff.1 h
  rfl

/-- **There is a next tick** if the clock has room for another period. -/
theorem isSome_next? (hdue : t.due ≤ fired) (hfired : fired ≤ last)
    (hroom : last + t.period ≤ clockEnd) :
    (t.next? fired).isSome := by
  rw [next?, Option.isSome_map, Option.isSome_iff_ne_none, ne_eq,
    Duration.later?_eq_none_iff, not_not]
  split
  · exact Duration.add_le_clockEnd hfired hroom
  · exact Duration.add_le_clockEnd (Nat.le_trans hdue hfired) hroom

end Ticker

namespace Loop

variable {l : Loop σ} {last : Duration}

/-- What a loop may do next: it is stopped, it cannot tell when the tick after the next is due, or
it runs a cycle. -/
theorem next_cases (l : Loop σ) (ties : List Bool) (ticker : Ticker) (idle : Duration) :
    (∃ halts, l.next ties ticker idle = .ends halts .stopped) ∨
      (l.next ties ticker idle = .ends (ticker.firesAt idle) .clockExhausted ∧
        ticker.next? (ticker.firesAt idle) = none) ∨
      ∃ after rest, l.next ties ticker idle = .turns (ticker.firesAt idle) after rest ∧
        ticker.next? (ticker.firesAt idle) = some after := by
  rw [next]
  rcases takesTick (ticker.firesAt idle) (max idle l.stop) ties with ⟨_ | _, rest⟩
  · exact Or.inl ⟨_, rfl⟩
  · cases hnext : ticker.next? (ticker.firesAt idle) with
    | none => exact Or.inr (Or.inl ⟨by simp, rfl⟩)
    | some after => exact Or.inr (Or.inr ⟨after, rest, by simp, rfl⟩)

/-- **A loop that ends while the clock has room for another period was stopped.** -/
theorem reason_runFrom {fuel : Nat} {ties : List Bool} {ticker : Ticker} {r : Rebalancer}
    {idle : Duration} {s : σ} (hroom : last + ticker.period ≤ clockEnd)
    (hend : (l.runFrom fuel ties ticker r idle s).endedAt ≤ last) :
    (l.runFrom fuel ties ticker r idle s).reason = .stopped := by
  induction fuel generalizing ties ticker r idle s with
  | zero => rfl
  | succ fuel ih =>
    rw [runFrom] at hend ⊢
    rcases l.next_cases ties ticker idle
      with ⟨halts, hnext⟩ | ⟨hnext, hnone⟩ | ⟨after, rest, hnext, hafter⟩
    · rw [hnext]
    · -- the clock had room for the tick
      rw [hnext] at hend
      have hsome := Ticker.isSome_next? (ticker.due_le_firesAt idle) hend hroom
      rw [hnone] at hsome
      cases hsome
    · rw [hnext] at hend ⊢
      rw [← Ticker.period_next? hafter] at hroom
      exact ih hroom hend

/-- **A loop with a period was stopped** if it ends while the clock has room for another period. -/
theorem reason_run {ties : List Bool} {r : Rebalancer} {s : σ}
    (hperiod : r.config.housekeepingInterval.isZero = false)
    (hroom : last + r.config.housekeepingInterval ≤ clockEnd)
    (hend : (l.run ties r s).endedAt ≤ last) :
    (l.run ties r s).reason = .stopped := by
  have hfirst : Duration.later? ⟨0⟩ r.config.housekeepingInterval =
      some (⟨0⟩ + r.config.housekeepingInterval) :=
    if_pos (Duration.add_le_clockEnd (Nat.zero_le _) hroom)
  have hstart : Ticker.start r.config.housekeepingInterval =
      .ok ⟨r.config.housekeepingInterval, ⟨0⟩ + r.config.housekeepingInterval⟩ := by
    rw [Ticker.start, hperiod, hfirst]
    rfl
  rw [run, hstart] at hend ⊢
  exact reason_runFrom hroom hend

end Loop

/-! ## Configurations -/

namespace Config

/-- **The clock has room for a configuration** after a reading. -/
structure FitsClock (c : Config) (last : Duration) : Prop where
  /-- It reaches the next tick. -/
  interval : last + c.housekeepingInterval ≤ clockEnd
  /-- It reaches the end of the time for an eviction. -/
  eviction : last + c.podEvictionTimeout ≤ clockEnd
  /-- It reaches the end of the time for the pods to disappear. -/
  departure : last + (c.maxGracefulTermination + ({} : Pacing).headroom) ≤ clockEnd

/-- **All time arithmetic of a configuration stays on the clock** up to a reading. -/
structure SafeUntil (c : Config) (last : Duration) : Prop where
  /-- After a tick the next one can be told. -/
  ticks : ∀ {due fired : Duration}, due ≤ fired → fired ≤ last →
    ((Ticker.mk c.housekeepingInterval due).next? fired).isSome
  /-- A loop that ends was stopped, however many cycles it ran. -/
  loops : ∀ {σ : Type u} (l : Loop σ) (ties : List Bool) (r : Rebalancer) (s : σ), r.config = c →
    (l.run ties r s).endedAt ≤ last → (l.run ties r s).reason = .stopped
  /-- Evictions are not interrupted, the first of them or any later one. -/
  evictions : ∀ {σ : Type u} (api : ApiServer σ) (r : Rebalancer) (node : Node) (pods : List Pod)
    (s : Session σ), r.config = c →
    (evictAll api {} (r.order node pods) s).state.clock ≤ last →
    (evictAll api {} (r.order node pods) s).answer ≠ .error .clockExhausted
  /-- A worker that has started gets its deadline, after however many steps. -/
  workers : ∀ {σ : Type u} (api : ApiServer σ) (r : Rebalancer) (node : Node) (pods : List Pod)
    (s : Session σ) (steps : Nat), r.config = c →
    (boardAfter api {} (r.order node pods) steps s).session.clock ≤ last →
    ∀ w ∈ (boardAfter api {} (r.order node pods) steps s).active, w.deadline ≤ clockEnd
  /-- A wait for deletion that starts gets its deadline. -/
  departures : ∀ {σ : Type u} (api : ApiServer σ) (r : Rebalancer) (node : Node) (pods : List Pod)
    (s : Session σ), r.config = c → s.clock ≤ last →
    (awaitDeparture api {} (r.order node pods) s).answer ≠ .error .clockExhausted
  /-- A drain is not interrupted, whatever was evicted. -/
  drains : ∀ {σ : Type u} (api : ApiServer σ) (r : Rebalancer) (node : Node) (pods : List Pod)
    (s : Session σ), r.config = c →
    (ClusterApi.evictions api {} (r.order node pods)
      (Session.announce api (drainStarted (r.order node pods)) s).state).session.clock ≤ last →
    (drain api {} (r.order node pods) s).answer ≠ .error .clockExhausted

/-- A configuration that breaks no rule has a period. -/
theorem isZero_housekeepingInterval {c : Config} (h : c.validate = .ok c) :
    c.housekeepingInterval.isZero = false := by
  rw [Bool.eq_false_iff]
  intro hzero
  have hfault : c.fault? = some .zeroHousekeepingInterval := if_pos hzero
  rw [validate, hfault] at h
  cases h

/-- A server that never answers. -/
def silent : ApiServer PUnit.{u + 1} := ⟨fun _ => .done (.error .endlessLine)⟩

/-- **How far a configuration is safe.** Of a valid configuration all time arithmetic stays on the
clock up to a reading exactly if from there the clock has room for its interval, for its eviction
timeout, and for its grace period and the headroom. -/
theorem safeUntil_iff {c : Config} (hvalid : c.validate = .ok c) (last : Duration) :
    SafeUntil.{u} c last ↔ c.FitsClock last := by
  constructor
  · intro hsafe
    refine ⟨?_, ?_, ?_⟩
    · -- a tick that is due at the reading
      have htick := hsafe.ticks (Nat.le_refl last.nanos) (Nat.le_refl last.nanos)
      by_contra hlate
      have hnone : Duration.later? last c.housekeepingInterval = none :=
        Duration.later?_eq_none_iff.2 hlate
      simp [Ticker.next?, hnone] at htick
    · -- a drain whose evictions start at the reading
      by_contra hlate
      let order := (Rebalancer.new c {}).order { name := "" } [{ ns := "", name := "" }]
      have hpods : order.pods ≠ [] := List.cons_ne_nil _ _
      obtain ⟨hbroken, hsession⟩ := ClusterApi.brokenOff_evictions silent.{u} {}
        { server := PUnit.unit, clock := last } hpods hlate
      have hclock : (evictAll silent.{u} {} order
          { server := PUnit.unit, clock := last }).state.clock ≤ last := by
        rw [evictAll, hsession]
        exact Nat.le_refl _
      exact hsafe.evictions silent (Rebalancer.new c {}) _ _ _ rfl hclock
        (ClusterApi.evictAll_eq_clockExhausted_iff.2 hbroken)
    · have hfits := hsafe.departures silent (Rebalancer.new c {}) { name := "" } []
        { server := PUnit.unit, clock := last } rfl (Nat.le_refl _)
      by_contra hlate
      exact hfits (ClusterApi.awaitDeparture_eq_clockExhausted_iff.2 hlate)
  · intro hfits
    refine ⟨fun hdue hfired => Ticker.isSome_next? hdue hfired hfits.interval, ?_, ?_, ?_, ?_, ?_⟩
    · rintro σ l ties r s rfl hend
      exact Loop.reason_run (isZero_housekeepingInterval hvalid) hfits.interval hend
    · rintro σ api r node pods s rfl hclock hexhausted
      exact ClusterApi.not_brokenOff_evictions hclock hfits.eviction
        (ClusterApi.evictAll_eq_clockExhausted_iff.1 hexhausted)
    · rintro σ api r node pods s steps rfl hclock w hw
      exact Nat.le_trans (ClusterApi.deadline_le_boardAfter w hw)
        (Duration.add_le_clockEnd hclock hfits.eviction)
    · rintro σ api r node pods s rfl hclock hexhausted
      exact ClusterApi.awaitDeparture_eq_clockExhausted_iff.1 hexhausted
        (Duration.add_le_clockEnd hclock hfits.departure)
    · rintro σ api r node pods s rfl hclock hexhausted
      exact ClusterApi.emptyNode_ne_clockExhausted hclock hfits.eviction hfits.departure
        (ClusterApi.drain_eq_error_iff.1 hexhausted)

/-- The usual configuration is safe for nine quintillion seconds from the start. -/
theorem safeUntil_default :
    ({} : Config).validate = .ok {} ∧ ({} : Config).FitsClock (.ofSeconds 9000000000000000000) ∧
      SafeUntil.{0} {} (.ofSeconds 9000000000000000000) := by
  have hvalid : ({} : Config).validate = .ok {} := by decide +kernel
  have hfits : ({} : Config).FitsClock (.ofSeconds 9000000000000000000) :=
    ⟨by decide, by decide, by decide⟩
  exact ⟨hvalid, hfits, (safeUntil_iff hvalid _).2 hfits⟩

/-- The longest span that a word holds, in seconds. -/
def longest : Duration := .ofSeconds 18446744073709551615

/-- A configuration that gives pods the longest time to end. -/
def lenient : Config := { maxGracefulTermination := longest }

/-- A configuration that waits the longest time between cycles. -/
def seldom : Config := { housekeepingInterval := longest }

/-- **Valid configurations leave the clock.** In one drain the eviction of the only pod is accepted,
and then the drain is interrupted. One loop does not start. -/
theorem not_safeUntil_longest :
    lenient.validate = .ok lenient ∧ seldom.validate = .ok seldom ∧
      (∃ pod order reply, order = (Rebalancer.new lenient {}).order { name := "worker" } [pod] ∧
        reply = drain ScriptedServer.api {} order { server := {} } ∧
        evictionAnswers reply.state.log pod = [.ok ()] ∧ reply.answer = .error .clockExhausted) ∧
      (∀ (l : Loop Unit) (ties : List Bool),
        (l.run ties (Rebalancer.new seldom {}) ()).reason = .clockExhausted) ∧
      ¬ SafeUntil.{0} lenient ⟨0⟩ ∧ ¬ SafeUntil.{0} seldom ⟨0⟩ := by
  have hanswer : (drain ScriptedServer.api {}
      ((Rebalancer.new lenient {}).order { name := "worker" } [ClusterApi.web "a"])
      { server := {} }).answer = .error .clockExhausted := by
    with_unfolding_all rfl
  refine ⟨by decide +kernel, by decide +kernel, ⟨ClusterApi.web "a", _, _, rfl, rfl, ?_, hanswer⟩,
    ?_, ?_, ?_⟩
  · with_unfolding_all rfl
  · intro l ties
    rfl
  · intro hsafe
    refine hsafe.drains ScriptedServer.api (Rebalancer.new lenient {}) { name := "worker" }
      [ClusterApi.web "a"] { server := {} } rfl ?_ hanswer
    decide +kernel
  · intro hsafe
    have htick := hsafe.ticks (Nat.le_refl (⟨0⟩ : Duration).nanos) (Nat.le_refl _)
    revert htick
    decide +kernel

end Config

end SpotRebalance
