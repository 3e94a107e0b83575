import SpotRebalance.Proofs.DrainPlan.UnknownDemand
import SpotRebalance.Proofs.Manifest.Unreadable
import SpotRebalance.Proofs.Rebalancer.DrainSafety

/-! # Pods whose requests cannot be read

One quantity that cannot be read, anywhere among the requests of a pod, and the pod stays where it
is: it fits no node, nothing fits beside it, no cycle chooses the node that it would have to leave,
and no plan puts another pod on the node that it runs on (`unreadable_stays`). -/

namespace SpotRebalance

universe u

variable {σ : Type u}

/-- The node that an outcome says is drained, or would be. -/
def Outcome.target? : Outcome → Option String
  | drained node _ | drainFailed node _ | dryRun node _ => some node
  | coolingDown .. | unschedulablePods .. | noOnDemandNodes | nothingDrainable .. => none

@[simp] theorem Outcome.target?_ofDrain (node : String) (pods : Nat)
    (answer : Except RebalanceError Unit) :
    (ofDrain node pods answer).target? = some node := by
  cases answer <;> rfl

@[simp] theorem Outcome.target?_ofNothing (considered : Nat) :
    (ofNothing considered).target? = none := by
  rw [ofNothing]
  split <;> rfl

namespace Rebalancer

/-- **A cycle chooses a node**: it orders to drain a node of the name, or says that it drained one
or would have. -/
def Chooses (calls : List Call) (result : Except RebalanceError Outcome) (name : String) : Prop :=
  (∃ order ∈ Call.orders calls, order.node.name = name) ∨ ∃ outcome, result = .ok outcome ∧
    outcome.target? = some name

variable {r : Rebalancer} {now : Instant} {nodes : List Node} {pods : List Pod}
  {budgets : List DisruptionBudget}

/-- **A cycle chooses the first drainable node** of its survey. -/
theorem Account.chooses {calls : List Call} {effect : CycleEffect} (h : Account r now calls effect)
    (hsurvey : Call.Surveys calls nodes pods budgets) {name : String}
    (hchoice : Chooses calls effect.result name) :
    ∃ node moved,
      Survey.firstDrainable? ⟨.ofListing r.config.roleLabels nodes pods, budgets⟩ r.policy =
        some (node, moved) ∧ node.name = name := by
  -- only the last two ends of a cycle name a node, and both name the first drainable one
  cases h with
  | cooling _ hsurveyed => simp [Chooses, hsurveyed.orders_eq_nil, Outcome.target?] at hchoice
  | unlisted => simp [Chooses, Call.orders, Call.order?] at hchoice
  | waiting _ _ hsurveyed =>
    simp [Chooses, Call.orders_unschedulablePods_cons, hsurveyed.orders_eq_nil, Outcome.target?]
      at hchoice
  | unsurveyed _ hsurveyed =>
    simp [Chooses, Call.orders_unschedulablePods_cons, hsurveyed.orders_eq_nil] at hchoice
  | idle => simp [Chooses] at hchoice
  | named _ hsurvey' hfirst =>
    obtain ⟨rfl, rfl, rfl⟩ := Call.surveys_listings_iff.1 hsurvey
    subst hsurvey'
    refine ⟨_, _, hfirst, ?_⟩
    simpa [Chooses, Outcome.target?] using hchoice
  | ordered _ hsurvey' hfirst =>
    obtain ⟨rfl, rfl, rfl⟩ := Call.surveys_listings_iff.1 (Call.surveys_append_drain_iff.1 hsurvey)
    subst hsurvey'
    refine ⟨_, _, hfirst, ?_⟩
    simpa [Chooses, order] using hchoice

/-- A node that a pod of unknown demand would have to leave is not the first drainable one. -/
theorem not_firstDrainable_of_unknown {labels : RoleLabels} {pod : Pod} (hunknown : pod.Unknown)
    (hlisted : pod ∈ pods) (hmovable : pod.isRelocatable) {node : Node} {moved : List Pod}
    (hfirst : Survey.firstDrainable? ⟨.ofListing labels nodes pods, budgets⟩ {} =
      some (node, moved)) :
    pod.nodeName ≠ some node.name := by
  intro hbound
  obtain ⟨-, -, -, hmoved, plan, hplan⟩ := moved_of_firstDrainable hfirst
  -- the pod is one of those that move, and there is no plan for them
  have hpod : pod ∈ moved := by
    have hlive : pod.phase.isTerminal = false := by
      simp only [Pod.isRelocatable, Pod.isEnding, Bool.and_eq_true, Bool.not_eq_true',
        Bool.or_eq_false_iff] at hmovable
      exact hmovable.2.2
    rw [hmoved, List.mem_filter]
    exact ⟨hlisted, by simp [hlive, hbound, hmovable]⟩
  exact DrainPlan.plan_ne_ok_of_unknown hpod hunknown hplan

/-- **A pod stays** in a cycle: the node that it would have to leave is not chosen, and no plan for
the spot nodes of the survey puts a pod on a node that it runs on. -/
structure Stays (pod : Pod) (labels : RoleLabels) (nodes : List Node) (pods : List Pod)
    (calls : List Call) (result : Except RebalanceError Outcome) : Prop where
  /-- If the pod must leave its node, the node is not chosen. -/
  not_chosen : pod.isRelocatable → ∀ name, Chooses calls result name → pod.nodeName ≠ some name
  /-- Every plan leaves the node that the pod is counted on as it is. -/
  kept : ∀ moved plan,
    DrainPlan.plan Fit.obstacle? (Snapshot.ofListing labels nodes pods).spot moved = .ok plan →
    List.Forall₂ (fun load now => pod ∈ load.pods → now = load)
      (Snapshot.ofListing labels nodes pods).spot plan.projected
  /-- If no two nodes have the same name, no plan names the node that the pod is bound to, until it
  has ended. -/
  not_destination : (nodes.map (·.name)).Nodup → pod.phase.isTerminal = false →
    ∀ moved plan,
      DrainPlan.plan Fit.obstacle? (Snapshot.ofListing labels nodes pods).spot moved = .ok plan →
      ∀ placement ∈ plan.placements, pod.nodeName ≠ some placement.node

/-- **A pod of unknown demand stays** in every cycle under the usual policy that surveys it. -/
theorem stays_of_unknown {pod : Pod} (hunknown : pod.Unknown) (hpolicy : r.policy = {})
    {env : Environment σ} {s : σ} (hsurvey : Call.Surveys (r.calls env now s) nodes pods budgets)
    (hlisted : pod ∈ pods) :
    Stays pod r.config.roleLabels nodes pods (r.calls env now s)
      (r.runAt env now s).answer.result where
  not_chosen hmovable name hchoice := by
    obtain ⟨node, moved, hfirst, rfl⟩ := (account_cycle r env now s).chooses hsurvey hchoice
    rw [hpolicy] at hfirst
    exact not_firstDrainable_of_unknown hunknown hlisted hmovable hfirst
  kept moved plan hplan :=
    (DrainPlan.forall₂_eq_of_unknown hplan).imp fun _ _ hkept hpod => hkept ⟨pod, hpod, hunknown⟩
  not_destination hdistinct hlive moved plan hplan placement hplacement hbound := by
    obtain ⟨load, hload, hname⟩ := List.mem_map.1 (DrainPlan.placement_node_mem hplan hplacement)
    have hpods := ((Snapshot.mem_loads_iff hdistinct).1 (Snapshot.mem_spot_ofListing hload).1).2
    have hpod : pod ∈ load.pods := by
      rw [hpods, Snapshot.mem_boundTo_live_iff]
      exact ⟨hlisted, hlive, hbound.trans (congrArg some hname.symm)⟩
    exact DrainPlan.placement_ne_of_unknown (Snapshot.nodup_spot_ofListing hdistinct) hload
      ⟨pod, hpod, hunknown⟩ hplan
      placement hplacement hname.symm

/-- **A pod with a request that cannot be read stays.** It fits no node, bound or not; no pod fits
on a node that counts it; and it stays in every cycle under the usual policy that surveys it. -/
theorem unreadable_stays (m : PodManifest) (pod : Pod) (hpod : m.toPod? = some pod)
    (hunreadable : m.HasUnreadableRequest) :
    (∀ load, ¬ Fit.accepts Fit.obstacle? pod load ∧ ¬ Fit.accepts Fit.obstacle? pod.unbound load) ∧
      (∀ load : NodeLoad, pod ∈ load.pods → ∀ other, ¬ Fit.accepts Fit.obstacle? other load) ∧
      ∀ (r : Rebalancer) (env : Environment σ) (now : Instant) (s : σ) nodes pods budgets,
        r.policy = {} → Call.Surveys (r.calls env now s) nodes pods budgets → pod ∈ pods →
        Stays pod r.config.roleLabels nodes pods (r.calls env now s)
          (r.runAt env now s).answer.result := by
  have hunknown : pod.Unknown := by
    have hfault := (PodManifest.isSome_requestError_iff hpod).2 hunreadable
    exact Option.isSome_iff_ne_none.1 hfault
  have hunbound : pod.unbound.Unknown := hunknown
  refine ⟨fun load => ⟨?_, ?_⟩, fun load hload => ?_,
    fun r env now s nodes pods budgets hpolicy hsurvey hlisted => ?_⟩
  · exact Fit.not_accepts_of_unknown hunknown load
  · exact Fit.not_accepts_of_unknown hunbound load
  · exact Fit.not_accepts_of_holdsUnknown ⟨pod, hload, hunknown⟩
  · exact stays_of_unknown hunknown hpolicy hsurvey hlisted

/-- A replica on the on-demand node whose init container asks for memory in words. -/
def wordy : PodManifest where
  metadata :=
    { name := some "wordy", ns := some "default", owners := [⟨"ReplicaSet", "web", some true⟩] }
  spec := some
    { nodeName := some "worker"
      containers := [{ requests := .ofList [("cpu", "100m")] }]
      initContainers := [{ requests := .ofList [("cpu", "1"), ("memory", "plenty")] }] }
  phase := some "Running"

set_option maxRecDepth 1000 in
/-- Beside that pod the other replica could move, but the node is not drained. -/
theorem unreadable_stays_wordy :
    ∃ pod, wordy.toPod? = some pod ∧ wordy.HasUnreadableRequest ∧
      let r := Rebalancer.new {} {}
      let cluster := { movable with pods := [replica, pod] }
      let result := (r.runAt LocalCluster.environment ⟨0, 0⟩ cluster).answer.result
      result = .ok (.nothingDrainable 1) ∧
        Stays pod r.config.roleLabels cluster.nodes cluster.pods
          (r.calls LocalCluster.environment ⟨0, 0⟩ cluster) result := by
  have hunreadable : wordy.HasUnreadableRequest :=
    ⟨_, _, "memory", "plenty", rfl, Or.inr ⟨_, .tail _ (.head _), rfl⟩, by decide, by decide⟩
  refine ⟨_, rfl, hunreadable, ?_⟩
  intro r cluster result
  have hcalls : r.calls LocalCluster.environment ⟨0, 0⟩ cluster =
      Call.listings cluster.nodes cluster.pods cluster.budgets := by
    with_unfolding_all rfl
  have hresult : result = .ok (.nothingDrainable 1) := by with_unfolding_all rfl
  have hsurvey : Call.Surveys (r.calls LocalCluster.environment ⟨0, 0⟩ cluster) cluster.nodes
      cluster.pods cluster.budgets := by
    rw [hcalls]
    exact Call.surveys_listings_iff.2 ⟨rfl, rfl, rfl⟩
  exact ⟨hresult, (unreadable_stays wordy _ rfl hunreadable).2.2 r LocalCluster.environment
    ⟨0, 0⟩ cluster _ _ _ rfl hsurvey (.tail _ (.head _))⟩

end Rebalancer

end SpotRebalance
