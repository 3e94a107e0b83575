import SpotRebalance.Proofs.Rebalancer.Cooldown

/-! # When the cooldown starts

A cycle lists the cluster before it drains a node, and its listings take time. The cooldown is to
start at the end of the drain, but this time is left out: the cooldown starts as if the drain had
begun together with the cycle. So it ends earlier than the delay after the drain, by as much as the
listings took (`cooldown_lags_listings`). Only where listings take no time, or the calendar ends
first, it ends when it should. -/

namespace SpotRebalance

universe u

variable {σ : Type u}

namespace Rebalancer

variable {r : Rebalancer} {env : Environment σ} {now : Instant} {s : σ}

/-- **A cycle that attempts a drain takes as long as its listings and the drain**, and its journal
shows the drain. -/
theorem Course.took_eq {reply : Reply (σ × List Call) CycleEffect}
    (h : Course r env.noted now (s, []) reply) (hattempted : attempted reply.answer.result = true) :
    ∃ listing, reply.took = listing + Call.drainTime reply.state.2 := by
  -- only one course gets as far as a drain, and there the two waits before it are those for the
  -- listings
  cases h with
  | cooling =>
    rw [result_measureOnly] at hattempted
    cases hattempted
  | waiting =>
    rw [Reply.answer_delayed, result_measureOnly] at hattempted
    cases hattempted
  | unlisted | unsurveyed | deserted | stuck => cases hattempted
  | @attempt survey node moved wait took s₁ s₂ hgates hsurvey hfirst =>
    obtain ⟨nodes, pods, budgets, hlisted, -⟩ := hgates.complete hsurvey
    refine ⟨wait + took, ?_⟩
    cases hdry : r.config.dryRun with
    | true =>
      rw [drain_of_dryRun hdry]
      simp only [Reply.delayed, hlisted, Call.drainTime_listings]
      exact Duration.ext (Nat.add_assoc ..).symm
    | false =>
      rcases hdrain : env.noted.drain (r.order node moved) s₂ with ⟨answer, elapsed, s₃⟩
      rw [drain_of_not_dryRun hdry hdrain]
      rw [Environment.drain_noted] at hdrain
      simp only [Reply.delayed, (Exchange.noted_eq hdrain).2, hlisted,
        Call.drainTime_listings_drain]
      exact Duration.ext (Nat.add_assoc ..).symm

/-- The time of a cycle with an attempt is that of its listings and that of its drain. -/
theorem took_of_attempted (h : attempted (r.runAt env now s).answer.result = true) :
    ∃ listing, (r.runAt env now s).took = listing + Call.drainTime (r.calls env now s) := by
  have hcourse := course_cycle r env.noted now (s, [])
  rw [cycle_noted] at hcourse
  exact hcourse.took_eq h

/-- **The cooldown does not wait for the listings.** After a cycle with an attempt the cooldown ends
the delay after the instant of the cycle and the time of the drain. This is the delay after the end
of the drain exactly if the listings took no time or the calendar ends first. Otherwise it is too
early by the time that the listings took. -/
theorem cooldown_lags_listings (r : Rebalancer) (env : Environment σ) (now : Instant) (s : σ)
    (hnow : now ≤ Instant.latest)
    (hattempted : attempted (r.runAt env now s).answer.result = true) :
    ∃ listing deadline, (r.runAt env now s).took = listing + Call.drainTime (r.calls env now s) ∧
      (r.runAt env now s).answer.rebalancer.nextDrainAt = some deadline ∧
      deadline = r.cooldownEnd now (Call.drainTime (r.calls env now s)) ∧
      (deadline = r.cooldownEnd now (r.runAt env now s).took ↔
        listing = ⟨0⟩ ∨ deadline = Instant.latest) ∧
      (r.cooldownEnd now (r.runAt env now s).took ≠ Instant.latest →
        deadline.shift listing = r.cooldownEnd now (r.runAt env now s).took) := by
  obtain ⟨listing, htook⟩ := took_of_attempted hattempted
  refine ⟨listing, _, htook, (runAt_of_attempted hattempted).2, rfl, ?_, fun hcut => ?_⟩
  · rw [htook]
    exact Instant.after_after_eq_iff hnow
  · rw [htook] at hcut ⊢
    exact Instant.shift_after_after hnow hcut

/-- The environment of a local cluster whose nodes take half a minute to list. -/
def slowNodes : Environment LocalCluster :=
  { LocalCluster.environment with nodes := fun c => ⟨c.listNodes, .ofSeconds 30, c⟩ }

/-- There a cycle that drains for five seconds takes thirty-five. The cooldown ends half a minute
early. -/
theorem cooldown_lags_listings_slow :
    let r := Rebalancer.new {} {}
    let reply := r.runAt slowNodes ⟨0, 0⟩ movable
    reply.took = .ofSeconds 35 ∧ Call.drainTime (r.calls slowNodes ⟨0, 0⟩ movable) = .ofSeconds 5 ∧
      ∃ deadline, reply.answer.rebalancer.nextDrainAt = some deadline ∧
        deadline.shift (.ofSeconds 30) = r.cooldownEnd ⟨0, 0⟩ (.ofSeconds 35) := by
  intro r reply
  have htook : reply.took = .ofSeconds 35 := by decide +kernel
  have hdrained : Call.drainTime (r.calls slowNodes ⟨0, 0⟩ movable) = .ofSeconds 5 := by
    decide +kernel
  have hattempted : attempted reply.answer.result = true := by decide +kernel
  have hcut : r.cooldownEnd ⟨0, 0⟩ reply.took ≠ Instant.latest := by
    rw [htook]
    decide
  obtain ⟨listing, deadline, hsum, hnext, -, -, hlag⟩ :=
    cooldown_lags_listings r slowNodes ⟨0, 0⟩ movable (by decide) hattempted
  have hlisting : listing = .ofSeconds 30 := by
    have hnanos := congrArg Duration.nanos (htook.symm.trans hsum)
    rw [hdrained, Duration.nanos_add] at hnanos
    refine Duration.ext ?_
    simp only [Duration.ofSeconds, Duration.second] at *
    omega
  rw [← hlisting, ← htook]
  exact ⟨rfl, hdrained, deadline, hnext, hlag hcut⟩

/-- There a drain that ends at once ends half a minute after the cycle started, but the cooldown
ends only the delay of ten minutes after that start. -/
theorem cooldown_not_after_listings :
    let r := Rebalancer.new {} {}
    let now : Instant := ⟨1717228800, 0⟩
    let reply := r.runAt slowNodes now { movable with drainTakes := ⟨0⟩ }
    attempted reply.answer.result = true ∧ reply.took = .ofSeconds 30 ∧
      reply.answer.rebalancer.nextDrainAt = some ⟨1717229400, 0⟩ ∧
      r.cooldownEnd now reply.took = ⟨1717229430, 0⟩ ∧
      reply.answer.rebalancer.nextDrainAt ≠ some (r.cooldownEnd now reply.took) := by
  intro r now reply
  have hattempted : attempted reply.answer.result = true := by decide +kernel
  have htook : reply.took = .ofSeconds 30 := by decide +kernel
  have hnext : reply.answer.rebalancer.nextDrainAt = some ⟨1717229400, 0⟩ := by decide +kernel
  have hdue : r.cooldownEnd now reply.took = ⟨1717229430, 0⟩ := by
    rw [htook]
    decide +kernel
  refine ⟨hattempted, htook, hnext, hdue, ?_⟩
  rw [hnext, hdue]
  decide

end Rebalancer

end SpotRebalance
