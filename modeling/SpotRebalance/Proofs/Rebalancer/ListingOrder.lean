import SpotRebalance.Metrics.Record
import SpotRebalance.Proofs.DrainPlan.Order
import SpotRebalance.Proofs.Rebalancer.Account
import SpotRebalance.Proofs.Rebalancer.Comparison
import SpotRebalance.Proofs.Rebalancer.Cooldown
import SpotRebalance.Proofs.Snapshot.Order

/-! # Decisions and the order of a listing

Under the usual policy a cycle does not depend on the order in which pods are listed, as long as the
pods of each on-demand node stay in order among themselves (`decision_of_reordered`). The snapshots
of two such listings differ only in the order of the pods on spot nodes. As many pods must move from
each node (`podCounts_rearranged`), although another pod may be found to block it, and the verdicts
on on-demand nodes are the same, destinations included (`verdict_rearranged`). So two such cycles
see alike (`seeAlike_of_reordered`), and come to the same. -/

namespace SpotRebalance

universe u v

/-! ## Surveys of rearranged loads -/

section Loads

variable {budgets : List DisruptionBudget} {loads others : List NodeLoad} {xs ys moved : List Pod}

/-- The pods that must move are the same but for their order, whatever the order of the pods. -/
theorem Relocation.podsToMove_perm (hperm : xs.Perm ys) (h : podsToMove xs budgets = .ok moved) :
    ∃ moved', podsToMove ys budgets = .ok moved' ∧ moved.Perm moved' := by
  obtain ⟨rfl, hevictable⟩ := podsToMove_eq_ok_iff.1 h
  have hkept := hperm.filter Pod.isRelocatable
  exact ⟨_, podsToMove_eq_ok_iff.2 ⟨rfl, fun p hp => hevictable p (hkept.mem_iff.2 hp)⟩, hkept⟩

/-- **As many pods must move from each node**, and it can be told of the same nodes. -/
theorem Survey.podCounts_rearranged (h : List.Forall₂ NodeLoad.Rearranged loads others)
    (role : Role) :
    podCounts budgets Relocation.podsToMove role loads =
      podCounts budgets Relocation.podsToMove role others := by
  have hcounts : List.Forall₂ Eq (podCounts budgets Relocation.podsToMove role loads)
      (podCounts budgets Relocation.podsToMove role others) := by
    refine List.rel_filterMap (fun load other hload => ?_) h
    simp only [hload.name_eq]
    -- if no pod blocks one of the two, then none blocks the other
    cases hmoved : Relocation.podsToMove load.pods budgets with
    | ok moved =>
      obtain ⟨moved', hmoved', hperm⟩ := Relocation.podsToMove_perm hload.pods hmoved
      rw [hmoved']
      exact .some (by rw [hperm.length_eq])
    | error e =>
      cases hmoved' : Relocation.podsToMove other.pods budgets with
      | error e' => exact .none
      | ok moved' =>
        obtain ⟨moved, hok, -⟩ := Relocation.podsToMove_perm hload.pods.symm hmoved'
        rw [hmoved] at hok
        cases hok
  rwa [List.forall₂_eq_eq_eq] at hcounts

/-- A verdict without what the spot nodes would hold after the drain. -/
def NodeVerdict.withoutLoads : NodeVerdict → NodeVerdict
  | drainable pods plan => drainable pods { plan with projected := [] }
  | skipped reason => skipped reason
  | noCandidates => noCandidates
  | infeasible reason => infeasible reason

/-- **The verdict on a node is the same**, with the same destinations, whatever the order of the
pods on spot nodes. -/
theorem Policy.verdict_rearranged (h : List.Forall₂ NodeLoad.Rearranged loads others)
    (budgets : List DisruptionBudget) (pods : List Pod) :
    (verdict {} budgets loads pods).withoutLoads =
      (verdict {} budgets others pods).withoutLoads := by
  rcases hmoved : Relocation.podsToMove pods budgets with reason | _ | ⟨pod, rest⟩
  · simp only [verdict, hmoved]
  · simp only [verdict, hmoved]
  · have hplans := DrainPlan.placements_rearranged h (pod :: rest)
    simp only [verdict, hmoved]
    generalize DrainPlan.plan Fit.obstacle? loads (pod :: rest) = planned,
      DrainPlan.plan Fit.obstacle? others (pod :: rest) = planned' at hplans ⊢
    -- both have a plan, and then the same placements, or both fail for the same pod
    cases planned with
    | error e =>
      cases planned' with
      | error e' =>
        cases hplans
        rfl
      | ok plan' => cases hplans
    | ok plan =>
      cases planned' with
      | error e' => cases hplans
      | ok plan' =>
        have hplacements : plan.placements = plan'.placements := Except.ok.inj hplans
        simp only [NodeVerdict.withoutLoads, hplacements]

end Loads

namespace Survey

variable {v v' : Survey}

/-- Which node is drained, and of which pods, does not depend on what the spot nodes would hold
afterwards. -/
theorem firstDrainable?_congr {policy : Policy}
    (honDemand : v.snapshot.onDemand = v'.snapshot.onDemand)
    (hverdict : ∀ pods, (policy.verdict v.budgets v.snapshot.spot pods).withoutLoads =
      (policy.verdict v'.budgets v'.snapshot.spot pods).withoutLoads) :
    v.firstDrainable? policy = v'.firstDrainable? policy := by
  rw [firstDrainable?, firstDrainable?, honDemand]
  congr 1
  funext load
  have hload := hverdict load.pods
  generalize policy.verdict v.budgets v.snapshot.spot load.pods = verdict,
    policy.verdict v'.budgets v'.snapshot.spot load.pods = verdict' at hload
  cases verdict with
  | drainable pods plan =>
    cases verdict' with
    | drainable pods' plan' =>
      obtain ⟨rfl, -⟩ := NodeVerdict.drainable.inj hload
      rfl
    | skipped | noCandidates | infeasible => cases hload
  | skipped | noCandidates | infeasible =>
    cases verdict' with
    | drainable => cases hload
    | skipped | noCandidates | infeasible => rfl

/-- **Two surveys match** if they show the same budgets, and the same nodes but for the order of the
pods on spot nodes. -/
def Rearranged (v v' : Survey) : Prop := v.snapshot.Rearranged v'.snapshot ∧ v.budgets = v'.budgets

namespace Rearranged

/-- Surveys that match are measured alike. -/
theorem measurements_eq (h : v.Rearranged v') :
    v.measurements Relocation.podsToMove = v'.measurements Relocation.podsToMove := by
  obtain ⟨hsnapshot, hbudgets⟩ := h
  rw [measurements, measurements, hbudgets, hsnapshot.onDemand, hsnapshot.spot.length_eq,
    podCounts_rearranged hsnapshot.spot]

/-- In surveys that match the same node is the first that can be drained. -/
theorem firstDrainable?_eq (h : v.Rearranged v') :
    v.firstDrainable? {} = v'.firstDrainable? {} := by
  obtain ⟨hsnapshot, hbudgets⟩ := h
  refine firstDrainable?_congr hsnapshot.onDemand fun pods => ?_
  rw [hbudgets]
  exact Policy.verdict_rearranged hsnapshot.spot v'.budgets pods

end Rearranged

end Survey

/-! ## Journals of alike cycles -/

/-- **Two entries are alike**: they tell of listings that are, or of the same drain with the same
answer. -/
inductive Call.Alike (A : List Node → List Node → Prop) (B : List Pod → List Pod → Prop) :
    Call → Call → Prop where
  /-- The listings are alike. -/
  | listed {c c' : Call} (h : ListedAlike A B c c') : Alike A B c c'
  /-- The same drain had the same answer; it may have taken longer. -/
  | drain (order : DrainOrder) (answer : Except RebalanceError Unit) (took took' : Duration) :
      Alike A B (.drain order answer took) (.drain order answer took')

section Journals

variable {A : List Node → List Node → Prop} {B : List Pod → List Pod → Prop}
  {calls calls' : List Call}

/-- Alike journals hold the same orders. -/
theorem Call.orders_alike (h : List.Forall₂ (Alike A B) calls calls') :
    orders calls = orders calls' := by
  have horders : List.Forall₂ Eq (orders calls) (orders calls') := by
    refine List.rel_filterMap (fun c c' halike => ?_) h
    cases halike with
    | listed hlisted => cases hlisted <;> exact .none
    | drain => exact .some rfl
  rwa [List.forall₂_eq_eq_eq] at horders

/-- What stands in one of two lists that match has a match in the other. -/
theorem exists_mem_of_forall₂ {α β : Type} {R : α → β → Prop} {xs : List α} {ys : List β}
    (h : List.Forall₂ R xs ys) {x : α} (hx : x ∈ xs) : ∃ y ∈ ys, R x y := by
  induction h with
  | nil => cases hx
  | cons hxy _ ih =>
    rcases List.mem_cons.1 hx with rfl | hx
    · exact ⟨_, List.mem_cons_self, hxy⟩
    · obtain ⟨y, hy, hxy⟩ := ih hx
      exact ⟨y, List.mem_cons_of_mem _ hy, hxy⟩

section Entries

variable {c : Call} {nodes : List Node} {pods : List Pod} {budgets : List DisruptionBudget}

/-- The nodes are listed in both. -/
theorem Call.Alike.nodes_ok (h : Alike A B (.nodes (.ok nodes)) c) :
    ∃ nodes', c = .nodes (.ok nodes') ∧ A nodes nodes' := by
  cases h with
  | listed hlisted =>
    cases hlisted with
    | nodes hagree =>
      cases hagree with
      | ok hA => exact ⟨_, rfl, hA⟩

/-- The pods are listed in both. -/
theorem Call.Alike.pods_ok (h : Alike A B (.pods (.ok pods)) c) :
    ∃ pods', c = .pods (.ok pods') ∧ B pods pods' := by
  cases h with
  | listed hlisted =>
    cases hlisted with
    | pods hagree =>
      cases hagree with
      | ok hB => exact ⟨_, rfl, hB⟩

/-- The same budgets are listed in both. -/
theorem Call.Alike.budgets_ok (h : Alike A B (.budgets (.ok budgets)) c) :
    c = .budgets (.ok budgets) := by
  cases h with
  | listed hlisted =>
    cases hlisted with
    | budgets hagree => rw [hagree.eq]

/-- **If one of two alike journals holds a survey, so does the other**, and the surveys are
related. -/
theorem Call.Surveys.alike (hsurvey : Surveys calls nodes pods budgets)
    (h : List.Forall₂ (Alike A B) calls calls') :
    ∃ nodes' pods', Surveys calls' nodes' pods' budgets ∧ A nodes nodes' ∧ B pods pods' := by
  obtain ⟨_, hnodes, halike⟩ := exists_mem_of_forall₂ h hsurvey.nodes
  obtain ⟨nodes', rfl, hA⟩ := halike.nodes_ok
  obtain ⟨_, hpods, halike⟩ := exists_mem_of_forall₂ h hsurvey.pods
  obtain ⟨pods', rfl, hB⟩ := halike.pods_ok
  obtain ⟨_, hbudgets, halike⟩ := exists_mem_of_forall₂ h hsurvey.budgets
  obtain rfl := halike.budgets_ok
  exact ⟨nodes', pods', ⟨hnodes, hpods, hbudgets⟩, hA, hB⟩

end Entries

end Journals

/-! ## Environments that list pods in different orders -/

/-- **Two environments differ only in the order in which they list pods**, from states that match.
Both list the same nodes, if any, and a drain has the same answer in both. -/
structure Environment.Reordered {σ : Type u} {τ : Type v} (env : Environment σ)
    (env' : Environment τ) (labels : RoleLabels) (nodes : List Node) (R : σ → τ → Prop) : Prop where
  /-- The listings are the same but for the order of the pods. -/
  listings : env.ListsAlike env' (fun listed listed' => listed = nodes ∧ listed' = nodes)
    (Snapshot.Reordered labels nodes) R
  /-- A drain has the same answer. -/
  drain : ∀ order s t, R s t → (env'.drain order t).answer = (env.drain order s).answer

namespace Rebalancer

variable {σ : Type u} {τ : Type v} {r : Rebalancer} {env : Environment σ} {env' : Environment τ}
  {nodes : List Node} {R : σ → τ → Prop}

/-- **In such environments a rebalancer sees alike**, with journals that match. -/
theorem seeAlike_of_reordered (hpolicy : r.policy = {})
    (h : env.Reordered env' r.config.roleLabels nodes R) :
    SeeAlike r r env.noted env'.noted
      (JournalsMatch R (Call.ListedAlike (fun listed listed' => listed = nodes ∧ listed' = nodes)
        (Snapshot.Reordered r.config.roleLabels nodes))) Survey.Rearranged where
  nextDrainAt := rfl
  waiting := h.listings.noted.unschedulablePods
  survey := by
    refine h.listings.noted.survey fun listed listed' pods pods' budgets hnodes hpods => ?_
    obtain ⟨rfl, rfl⟩ := hnodes
    exact ⟨Snapshot.rearranged_ofListing hpods, rfl⟩
  measurements v v' hv := by
    rw [hpolicy]
    exact hv.measurements_eq.symm
  onDemand v v' hv := by rw [hv.1.onDemand]
  first v v' hv := by
    rw [hpolicy]
    exact hv.firstDrainable?_eq.symm

/-- Two cycles that come to the same, are measured alike and keep alike journals. -/
def EndAlike (A : List Node → List Node → Prop) (B : List Pod → List Pod → Prop)
    (effect effect' : CycleEffect) (a : σ × List Call) (b : τ × List Call) : Prop :=
  effect'.result = effect.result ∧ effect'.measurements = effect.measurements ∧
    List.Forall₂ (Call.Alike A B) a.2 b.2

/-- Drains with the same answers end alike. -/
theorem endAlike_drain {A : List Node → List Node → Prop} {B : List Pod → List Pod → Prop}
    (now : Instant) (h : ∀ order s t, R s t →
      (env'.drain order t).answer = (env.drain order s).answer) (shown : List Measurement)
    (node : Node) (pods : List Pod) :
    (r.drain env.noted now shown node pods).Alike (r.drain env'.noted now shown node pods)
      (JournalsMatch R (Call.ListedAlike A B)) (EndAlike A B) := by
  intro s t hst
  have hlisted : List.Forall₂ (Call.Alike A B) s.2 t.2 := hst.2.imp fun _ _ => .listed
  cases hdry : r.config.dryRun with
  | true =>
    rw [drain_of_dryRun hdry, drain_of_dryRun hdry]
    exact ⟨rfl, rfl, hlisted⟩
  | false =>
    rcases hdrain : env.noted.drain (r.order node pods) s with ⟨answer, took, s'⟩
    rcases hdrain' : env'.noted.drain (r.order node pods) t with ⟨answer', took', t'⟩
    rw [drain_of_not_dryRun hdry hdrain, drain_of_not_dryRun hdry hdrain']
    rw [Environment.drain_noted] at hdrain hdrain'
    obtain ⟨hplain, hjournal⟩ := Exchange.noted_eq hdrain
    obtain ⟨hplain', hjournal'⟩ := Exchange.noted_eq hdrain'
    -- outcome, measurement and entry depend on the answer, which is the same
    have hanswer := h (r.order node pods) s.1 t.1 hst.1
    rw [hplain, hplain'] at hanswer
    obtain rfl : answer' = answer := hanswer
    refine ⟨rfl, rfl, ?_⟩
    rw [hjournal, hjournal']
    exact List.rel_append hlisted (.cons (.drain ..) .nil)

/-- Cycles in such environments end alike. -/
theorem endAlike_cycle (hpolicy : r.policy = {})
    (h : env.Reordered env' r.config.roleLabels nodes R) (now : Instant) {s : σ} {t : τ}
    (hst : R s t) :
    EndAlike (fun listed listed' => listed = nodes ∧ listed' = nodes)
      (Snapshot.Reordered r.config.roleLabels nodes)
      (r.cycle env now s).answer (r.cycle env' now t).answer
        ((r.cycle env now s).state, r.calls env now s)
      ((r.cycle env' now t).state, r.calls env' now t) := by
  have hcycle := alike_cycle now (seeAlike_of_reordered hpolicy h)
    (fun effect s t _ hst => ⟨rfl, rfl, hst.2.imp fun _ _ => .listed⟩) (endAlike_drain now h.drain)
  have hend := hcycle (s, []) (t, []) ⟨hst, .nil⟩
  rw [cycle_noted, cycle_noted] at hend
  exact hend

end Rebalancer

/-! ## Local clusters with their pods in different orders -/

namespace LocalCluster

/-- **Two clusters hold the same**, but for the order of pods that are not on an on-demand node. -/
structure Relisted (labels : RoleLabels) (nodes : List Node) (c d : LocalCluster) : Prop where
  /-- Only the pods may differ. -/
  same : d = { c with pods := d.pods }
  /-- The nodes that are listed. -/
  listed : c.nodes.filter (fun n => !n.unschedulable) = nodes
  /-- The pods differ in their order only. -/
  pods : Snapshot.Reordered labels nodes c.pods d.pods

/-- Listings agree if what they would show is related. -/
theorem agree_listing {α : Type} {A : List α → List α → Prop} {items items' : List α}
    (c : LocalCluster) (listing : Listing) (h : A items items') :
    Agree A (c.listing listing items) (c.listing listing items') := by
  rw [LocalCluster.listing, LocalCluster.listing]
  by_cases hfailing : c.failing.contains listing
  · rw [if_pos hfailing, if_pos hfailing]
    exact .error _
  · rw [if_neg hfailing, if_neg hfailing]
    exact .ok h

/-- The environment of local clusters differs as they do. -/
theorem reordered_environment (labels : RoleLabels) (nodes : List Node) :
    environment.Reordered environment labels nodes (Relisted labels nodes) where
  listings :=
    { unschedulablePods := fun c d h => ⟨by rw [h.same]; rfl, h⟩
      nodes := fun c d h => ⟨by rw [h.same]; exact agree_listing c _ ⟨h.listed, h.listed⟩, h⟩
      pods := fun c d h => ⟨by rw [h.same]; exact agree_listing c _ h.pods, h⟩
      budgets := fun c d h => ⟨by rw [h.same]; exact .refl _, h⟩ }
  drain order c d h := by
    rw [h.same]
    change (finishDrain _ order).1 = (finishDrain c order).1
    simp only [finishDrain]
    cases c.drainFailure <;> rfl

end LocalCluster

namespace Rebalancer

variable {σ : Type u} {τ : Type v}

/-! ## Decisions -/

/-- **Two cycles decide alike**, each with what it asked and reported. -/
structure DecideAlike (labels : RoleLabels) (calls calls' : List Call)
    (report report' : CycleReport) : Prop where
  /-- They come to the same. -/
  result : report'.result = report.result
  /-- They order the same drain, if any: of the same node, and of the same pods in the same
  order. -/
  orders : Call.orders calls' = Call.orders calls
  /-- If the first surveyed the cluster, so did the second, and they show the same nodes but for the
  order of pods on spot nodes. The verdict on every on-demand node is the same, with the same
  destinations. -/
  surveys : ∀ nodes pods budgets, Call.Surveys calls nodes pods budgets → ∃ pods',
    Call.Surveys calls' nodes pods' budgets ∧
      (Snapshot.ofListing labels nodes pods).Rearranged (Snapshot.ofListing labels nodes pods') ∧
      ∀ load ∈ (Snapshot.ofListing labels nodes pods).onDemand,
        (Policy.verdict {} budgets (Snapshot.ofListing labels nodes pods').spot
          load.pods).withoutLoads =
          (Policy.verdict {} budgets (Snapshot.ofListing labels nodes pods).spot
            load.pods).withoutLoads
  /-- They leave the same record, of nodes and of drains and cycles. -/
  record : ∀ record : MetricRecord, record.applyAll report'.measurements =
    record.applyAll report.measurements
  /-- If the drain took equally long, they leave the same rebalancer. -/
  rebalancer : Call.drainTime calls' = Call.drainTime calls → report'.rebalancer = report.rebalancer

/-- **The order in which pods are listed does not matter**, as long as the pods of each on-demand
node stay in order. Two such listings give snapshots that differ only in the order of the pods on
spot nodes. A cycle of the same rebalancer under the usual policy comes to the same with either: it
drains the same pods, with the same destinations, and measures the same. -/
theorem decision_of_reordered (r : Rebalancer) (env : Environment σ) (env' : Environment τ)
    (now : Instant) (nodes : List Node) (R : σ → τ → Prop) {s : σ} {t : τ} (hpolicy : r.policy = {})
    (h : env.Reordered env' r.config.roleLabels nodes R) (hst : R s t) :
    (∀ labels listed pods others, Snapshot.Reordered labels listed pods others →
        (Snapshot.ofListing labels listed pods).Rearranged
          (Snapshot.ofListing labels listed others)) ∧
      DecideAlike r.config.roleLabels (r.calls env now s) (r.calls env' now t)
        (r.runAt env now s).answer
        (r.runAt env' now t).answer := by
  obtain ⟨hresult, hmeasurements, hjournals⟩ := endAlike_cycle hpolicy h now hst
  refine ⟨fun _ _ _ _ => Snapshot.rearranged_ofListing, ?_⟩
  constructor
  case result => exact hresult
  case orders => exact (Call.orders_alike hjournals).symm
  case surveys =>
    intro listed pods budgets hsurvey
    obtain ⟨_, pods', hsurvey', ⟨rfl, rfl⟩, hpods⟩ := hsurvey.alike hjournals
    have hsnapshot := Snapshot.rearranged_ofListing hpods
    exact ⟨pods', hsurvey', hsnapshot, fun load _ =>
      (Policy.verdict_rearranged hsnapshot.spot budgets load.pods).symm⟩
  case record =>
    intro record
    -- how long the cycle took is measured, but not recorded
    rw [runAt_answer, runAt_answer, hresult, hmeasurements, MetricRecord.applyAll_append,
      MetricRecord.applyAll_append]
    rfl
  case rebalancer =>
    intro htime
    -- of what a rebalancer keeps only the end of the cooldown depends on time
    have hreported : attempted (r.runAt env' now t).answer.result =
        attempted (r.runAt env now s).answer.result :=
      congrArg attempted hresult
    have hnext : (r.runAt env' now t).answer.rebalancer.nextDrainAt =
        (r.runAt env now s).answer.rebalancer.nextDrainAt := by
      cases hattempted : attempted (r.runAt env now s).answer.result with
      | false =>
        rw [runAt_of_not_attempted hattempted, runAt_of_not_attempted (hreported.trans hattempted)]
      | true =>
        rw [(runAt_of_attempted hattempted).2,
          (runAt_of_attempted (hreported.trans hattempted)).2, htime]
    rw [runAt_answer, runAt_answer] at hnext ⊢
    simp only [nextStatus] at hnext ⊢
    rw [hnext, hresult]

/-- A small replica on the spot node. -/
def tenant (name : String) : Pod :=
  { replica with name, nodeName := some "spot", requests := { cpuMillis := 200 } }

set_option maxRecDepth 1000 in
/-- Two clusters with the same pods on the spot node, which they list in different orders: both
drain the on-demand node. -/
theorem decision_of_reordered_tenants :
    let c := { movable with pods := [replica, tenant "a", tenant "b"] }
    let d := { movable with pods := [tenant "b", replica, tenant "a"] }
    let r := Rebalancer.new {} {}
    let env := LocalCluster.environment
    (r.runAt env ⟨0, 0⟩ c).answer.result = .ok (.drained "worker" 1) ∧
      DecideAlike r.config.roleLabels (r.calls env ⟨0, 0⟩ c) (r.calls env ⟨0, 0⟩ d)
        (r.runAt env ⟨0, 0⟩ c).answer
        (r.runAt env ⟨0, 0⟩ d).answer := by
  intro c d r env
  have hdrained : (r.runAt env ⟨0, 0⟩ c).answer.result = .ok (.drained "worker" 1) := by
    with_unfolding_all rfl
  have hreordered : Snapshot.Reordered r.config.roleLabels [worker, spotWorker] c.pods d.pods := by
    refine ⟨?_, by decide⟩
    decide
  have hrelisted : LocalCluster.Relisted r.config.roleLabels [worker, spotWorker] c d :=
    ⟨rfl, by decide, hreordered⟩
  exact ⟨hdrained, (decision_of_reordered r env env ⟨0, 0⟩ [worker, spotWorker] _ rfl
    (LocalCluster.reordered_environment r.config.roleLabels _) hrelisted).2⟩

end Rebalancer

end SpotRebalance
