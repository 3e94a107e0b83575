import SpotRebalance.LocalCluster
import SpotRebalance.Metrics.Record
import SpotRebalance.Proofs.Rebalancer.DrainSafety

/-! # Cycles that fail

Only a listing can make a cycle fail. The cycle then gives no order and measures nothing, so
whatever it leaves behind is as it was before, apart from the status that shows the failure and the
count of cycles (`Abandoned`, `failure_contained`).

A cycle that ends at a gate surveys the cluster for its measurements only. A listing that fails then
costs these measurements, and nothing else (`Gated`). -/

namespace SpotRebalance

universe u

variable {σ : Type u}

/-! ## Listings -/

/-- The error of a listing that failed. -/
def Call.fault? : Call → Option RebalanceError
  | nodes (.error e) | pods (.error e) | budgets (.error e) | unschedulablePods (.error e) => some e
  | nodes (.ok _) | pods (.ok _) | budgets (.ok _) | unschedulablePods (.ok _) | drain .. => none

/-- **A listing fails** with an error, and it is the last thing that is asked. No other listing
fails. -/
def Call.EndWith (calls : List Call) (e : RebalanceError) : Prop :=
  ∃ earlier failed, calls = earlier ++ [failed] ∧ failed.fault? = some e ∧
    ∀ c ∈ earlier, c.fault? = none

/-- A call that did not fail may come first. -/
theorem Call.EndWith.cons {calls : List Call} {e : RebalanceError} (h : EndWith calls e) {c : Call}
    (hc : c.fault? = none) : EndWith (c :: calls) e := by
  obtain ⟨earlier, failed, rfl, hfailed, hearlier⟩ := h
  exact ⟨c :: earlier, failed, rfl, hfailed, List.forall_mem_cons.2 ⟨hc, hearlier⟩⟩

/-- A survey that fails ends with the listing that failed. -/
theorem Surveyed.endWith {labels : RoleLabels} {calls : List Call} {e : RebalanceError}
    (h : Surveyed labels calls (.error e)) : Call.EndWith calls e := by
  cases h with
  | nodesFailed => exact ⟨[], _, rfl, rfl, by simp⟩
  | podsFailed nodes => exact ⟨[.nodes (.ok nodes)], _, rfl, rfl, by simp [Call.fault?]⟩
  | budgetsFailed nodes pods =>
    exact ⟨[.nodes (.ok nodes), .pods (.ok pods)], _, rfl, rfl, by simp [Call.fault?]⟩

/-- A survey in which a listing fails shows nothing. -/
theorem Surveyed.shown_eq_nil {labels : RoleLabels} {calls : List Call}
    {answer : Except RebalanceError Survey} (h : Surveyed labels calls answer) {c : Call}
    (hc : c ∈ calls) (hfault : c.fault?.isSome) (filter : RelocationFilter) :
    Survey.shown filter answer = [] := by
  cases h with
  | nodesFailed | podsFailed | budgetsFailed => rfl
  | complete nodes pods budgets =>
    simp only [List.mem_cons, List.not_mem_nil, or_false] at hc
    rcases hc with rfl | rfl | rfl <;> simp [Call.fault?] at hfault

/-! ## What listings leave -/

/-- **Listing leaves the cluster alone.** -/
structure Environment.ListsQuietly (env : Environment σ) : Prop where
  /-- Listing the nodes changes nothing. -/
  nodes : ∀ s, (env.nodes s).state = s
  /-- Listing the pods changes nothing. -/
  pods : ∀ s, (env.pods s).state = s
  /-- Listing the budgets changes nothing. -/
  budgets : ∀ s, (env.budgets s).state = s
  /-- Listing the pods that the scheduler cannot place changes nothing. -/
  unschedulablePods : ∀ s, (env.unschedulablePods s).state = s

/-- Nothing changes a local cluster while it is listed. -/
theorem LocalCluster.listsQuietly_environment : LocalCluster.environment.ListsQuietly :=
  ⟨fun _ => rfl, fun _ => rfl, fun _ => rfl, fun _ => rfl⟩

/-- A survey leaves a cluster alone that listings leave alone. -/
theorem Environment.ListsQuietly.survey {env : Environment σ} (h : env.ListsQuietly)
    (labels : RoleLabels) (s : σ) :
    (env.survey labels s).state = s := by
  have hnodes := h.nodes s
  rcases hn : env.nodes s with ⟨e | nodes, took, s₁⟩
  · rw [hn] at hnodes
    rw [Environment.survey, Exchange.andThen_error hn]
    exact hnodes
  rw [hn] at hnodes
  rw [Environment.survey, Exchange.andThen_ok hn, Reply.state_delayed]
  have hpods := h.pods s₁
  rcases hp : env.pods s₁ with ⟨e | pods, took₂, s₂⟩
  · rw [hp] at hpods
    rw [Exchange.andThen_error hp]
    exact hpods.trans hnodes
  rw [hp] at hpods
  rw [Exchange.andThen_ok hp, Reply.state_delayed]
  exact (h.budgets s₂).trans (hpods.trans hnodes)

namespace Rebalancer

variable {r : Rebalancer} {env : Environment σ} {now : Instant} {s : σ}

/-- A cycle that only measures leaves a cluster alone that listings leave alone. -/
theorem state_measureOnly (h : env.ListsQuietly) (outcome : Outcome) :
    (r.measureOnly env outcome s).state = s :=
  h.survey r.config.roleLabels s

/-- **A cycle that orders no drain leaves the cluster alone**, if listings do. -/
theorem Course.state_eq {reply : Reply σ CycleEffect} (hcourse : Course r env now s reply)
    (h : env.ListsQuietly)
    (hidle : r.config.dryRun = true ∨ attempted reply.answer.result = false) : reply.state = s := by
  have hunschedulable := h.unschedulablePods s
  -- after both gates, and after the survey, the cluster is as it was
  have hplaced {wait : Duration} {s₁ : σ} (hgates : PassesGates r env now s wait s₁) : s₁ = s := by
    rw [hgates.placed] at hunschedulable
    exact hunschedulable
  have hsurveyed {answer : Except RebalanceError Survey} {wait took : Duration} {s₁ s₂ : σ}
      (hgates : PassesGates r env now s wait s₁)
      (hsurvey : env.survey r.config.roleLabels s₁ = ⟨answer, took, s₂⟩) : s₂ = s := by
    have hkept := h.survey r.config.roleLabels s₁
    rw [hsurvey] at hkept
    exact hkept.trans (hplaced hgates)
  cases hcourse with
  | cooling => exact state_measureOnly h _
  | unlisted _ hfailed =>
    rw [hfailed] at hunschedulable
    exact hunschedulable
  | waiting _ hlisted =>
    rw [hlisted] at hunschedulable
    rw [Reply.state_delayed, state_measureOnly h]
    exact hunschedulable
  | unsurveyed hgates hfailed => exact hsurveyed hgates hfailed
  | deserted hgates hsurvey => exact hsurveyed hgates hsurvey
  | stuck hgates hsurvey => exact hsurveyed hgates hsurvey
  | @attempt survey node moved wait took s₁ s₂ hgates hsurvey hfirst =>
    cases hdry : r.config.dryRun with
    | true =>
      rw [drain_of_dryRun hdry]
      exact hsurveyed hgates hsurvey
    | false =>
      -- a drain that is ordered counts as an attempt, whatever comes of it
      rcases hdrain : env.drain (r.order node moved) s₂ with ⟨answer, elapsed, s₃⟩
      rw [drain_of_not_dryRun hdry hdrain] at hidle
      simp [hdry, attempted] at hidle

/-! ## Failed cycles -/

/-- **A cycle was abandoned** with an error: only the status shows it, and the count of cycles. -/
structure Abandoned (r : Rebalancer) (now : Instant) (calls : List Call) (record : MetricRecord)
    (report : CycleReport) (e : RebalanceError) : Prop where
  /-- A listing of the cycle failed with the error, and nothing was asked after it. -/
  listing : Call.EndWith calls e
  /-- No drain was ordered. -/
  orders : Call.orders calls = []
  /-- The end of the cooldown is as before. -/
  nextDrainAt : report.rebalancer.nextDrainAt = r.nextDrainAt
  /-- All measurements hold as before, and one failed cycle is added. -/
  record : record.applyAll report.measurements =
    { record with cycles := record.cycles ++ ["error"] }
  /-- The status counts the cycle and shows the error; the last outcome is as before. -/
  status : report.rebalancer.status =
    { r.status with
      cycles := r.status.cycles + 1
      lastCycleAt := some now
      nextDrainAt := r.nextDrainAt
      lastError := some e.message }

/-- **A cycle ended at a gate** with an outcome. If a listing of its survey failed, all measurements
hold as before, and only the cycle is added. -/
structure Gated (calls : List Call) (record : MetricRecord) (report : CycleReport)
    (outcome : Outcome) : Prop where
  /-- The outcome is that of the gate. -/
  result : report.result = .ok outcome
  /-- Nothing is measured of a survey that failed. -/
  record : (∃ c ∈ calls, c.fault?.isSome) →
    record.applyAll report.measurements = { record with cycles := record.cycles ++ [outcome.label] }

/-- **Failures are contained.** A cycle fails only with the error of one of its listings, and then
it has ordered no drain and left the end of the cooldown, the cluster, everything measured and the
last outcome as they were. While the cooldown lasts, or pods wait for the scheduler, a listing that
fails costs the measurements and not the outcome. -/
theorem failure_contained (r : Rebalancer) (env : Environment σ) (now : Instant) (s : σ)
    (record : MetricRecord) :
    (∀ e, (r.runAt env now s).answer.result = .error e →
        Abandoned r now (r.calls env now s) record (r.runAt env now s).answer e ∧
          (env.ListsQuietly → (r.runAt env now s).state = s)) ∧
      (∀ next, r.coolingUntil? now = some next →
        Gated (r.calls env now s) record (r.runAt env now s).answer (.coolingDown next)) ∧
      ∀ pods, pods ≠ [] → (r.calls env now s).head? = some (.unschedulablePods (.ok pods)) →
        Gated (r.calls env now s) record (r.runAt env now s).answer
          (.unschedulablePods pods.length) := by
  have haccount := account_cycle r env now s
  have hcourse := course_cycle r env now s
  rw [runAt_answer]
  generalize r.calls env now s = calls at haccount ⊢
  refine ⟨fun e hfailed => ⟨?_, fun hquiet => ?_⟩, fun next hcooling => ?_,
    fun pods hpods hhead => ?_⟩
  · -- the two ends of a cycle that are errors are those in which a listing fails
    generalize (r.cycle env now s).answer = effect at haccount hfailed ⊢
    cases haccount with
    | unlisted =>
      cases hfailed
      exact ⟨⟨[], _, rfl, rfl, by simp⟩, rfl, rfl, rfl, rfl⟩
    | unsurveyed _ hsurvey =>
      cases hfailed
      exact ⟨hsurvey.endWith.cons rfl, hsurvey.orders_eq_nil, rfl, rfl, rfl⟩
    | cooling | waiting | idle | named | ordered => cases hfailed
  · refine hcourse.state_eq hquiet (Or.inr ?_)
    change (r.cycle env now s).answer.result = .error e at hfailed
    rw [hfailed]
    rfl
  · generalize (r.cycle env now s).answer = effect at haccount ⊢
    cases haccount with
    | cooling hnext hsurvey =>
      cases hcooling.symm.trans hnext
      refine ⟨rfl, fun ⟨c, hc, hfault⟩ => ?_⟩
      simp only [hsurvey.shown_eq_nil hc hfault, List.nil_append]
      rfl
    | unlisted hready | waiting hready | unsurveyed hready | idle hready | named hready
    | ordered hready =>
      rw [hcooling] at hready
      cases hready
  · generalize (r.cycle env now s).answer = effect at haccount ⊢
    cases haccount with
    | waiting _ _ hsurvey =>
      cases hhead
      refine ⟨rfl, fun ⟨c, hc, hfault⟩ => ?_⟩
      rcases List.mem_cons.1 hc with rfl | hc
      · cases hfault
      · simp only [hsurvey.shown_eq_nil hc hfault, List.nil_append]
        rfl
    | cooling _ hsurvey => cases hsurvey <;> cases hhead
    | unlisted => cases hhead
    | unsurveyed | idle | named | ordered =>
      cases hhead
      exact absurd rfl hpods

/-- After a cycle that drained a node, a cycle in which the budgets cannot be listed: it fails once
the cooldown is over, and before that it is only not measured. -/
theorem failure_contained_unlisted_budgets :
    let drained := (Rebalancer.new {} {}).runAt LocalCluster.environment ⟨0, 0⟩ movable
    let r := drained.answer.rebalancer
    let record := MetricRecord.applyAll {} drained.answer.measurements
    let broken := { drained.state with failing := [.disruptionBudgets] }
    let e := RebalanceError.listingFailed .disruptionBudgets LocalCluster.injectedReason
    let late := r.runAt LocalCluster.environment ⟨605, 0⟩ broken
    let early := r.runAt LocalCluster.environment ⟨300, 0⟩ broken
    (late.answer.result = .error e ∧
        Abandoned r ⟨605, 0⟩ (r.calls LocalCluster.environment ⟨605, 0⟩ broken) record
          late.answer e ∧
        late.state = broken) ∧
      Gated (r.calls LocalCluster.environment ⟨300, 0⟩ broken) record early.answer
        (.coolingDown ⟨605, 0⟩) := by
  intro drained r record broken e late early
  have hfailed : late.answer.result = .error e := by with_unfolding_all rfl
  have hcooling : r.coolingUntil? ⟨300, 0⟩ = some ⟨605, 0⟩ := by with_unfolding_all rfl
  obtain ⟨habandoned, hstate⟩ :=
    (failure_contained r LocalCluster.environment ⟨605, 0⟩ broken record).1 e hfailed
  exact ⟨⟨hfailed, habandoned, hstate LocalCluster.listsQuietly_environment⟩,
    (failure_contained r LocalCluster.environment ⟨300, 0⟩ broken record).2.1 _ hcooling⟩

end Rebalancer

end SpotRebalance
