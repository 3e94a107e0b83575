import SpotRebalance.LocalCluster
import SpotRebalance.Proofs.Rebalancer.Account
import SpotRebalance.Proofs.Rebalancer.Drainable

/-! # Safe drains

A cycle orders at most one drain, and only after four listings of the same cycle that all succeeded.
What is ordered follows from these listings (`SafeOrder`): the node is a listed on-demand node, the
pods are all the listed ones that must leave it, each may be evicted, and each has a destination
among the listed spot nodes.

This is about the usual policy. A rebalancer keeps its policy and its settings (`runAt_rebalancer`),
so it holds in every state that such a rebalancer reaches, and for whatever the environment
answers. -/

namespace SpotRebalance

universe u

variable {σ : Type u}

namespace Rebalancer

/-- A cycle changes nothing of a rebalancer but the end of the cooldown and the status. -/
theorem runAt_rebalancer (r : Rebalancer) (env : Environment σ) (now : Instant) (s : σ) :
    (r.runAt env now s).answer.rebalancer.policy = r.policy ∧
      (r.runAt env now s).answer.rebalancer.config = r.config := ⟨rfl, rfl⟩

/-- **What makes the order of a drain safe**, given the listings of the cycle. -/
structure SafeOrder (r : Rebalancer) (now : Instant) (nodes : List Node) (pods : List Pod)
    (budgets : List DisruptionBudget) (order : DrainOrder) : Prop where
  /-- Drains are not only simulated. -/
  not_dryRun : r.config.dryRun = false
  /-- No cooldown was set, or it has ended. -/
  ready : ∀ next, r.nextDrainAt = some next → next ≤ now
  /-- The node is listed. -/
  listed : order.node ∈ nodes
  /-- The node carries the on-demand label. -/
  onDemand : order.node.hasLabel r.config.onDemandLabel
  /-- The node does not carry the spot label. -/
  not_spot : ¬ order.node.hasLabel r.config.spotLabel
  /-- No on-demand node listed before it can be drained. -/
  first : ∃ before load after,
    (Snapshot.ofListing r.config.roleLabels nodes pods).onDemand = before ++ load :: after ∧
      load.node = order.node ∧ ∀ l ∈ before, ∀ moved,
        ¬ Survey.Drainable ⟨.ofListing r.config.roleLabels nodes pods, budgets⟩ r.policy l moved
  /-- There are pods to move. -/
  nonempty : order.pods ≠ []
  /-- They are the listed pods on the node that must move, in listing order. -/
  pods_eq : order.pods =
    pods.filter fun p => !p.phase.isTerminal && p.nodeName == some order.node.name &&
      p.isRelocatable
  /-- Each of them has a controller, and no exhausted budget covers it. -/
  evictable : ∀ p ∈ order.pods, p.Evictable budgets
  /-- A plan for the spot nodes gives each of them a destination: a listed node with the spot label
  and without the on-demand label. -/
  planned : ∃ plan,
    DrainPlan.plan Fit.obstacle? (Snapshot.ofListing r.config.roleLabels nodes pods).spot
      order.pods = .ok plan ∧
    plan.placements.map (·.pod) = order.pods.map (·.key) ∧
    ∀ placement ∈ plan.placements, ∃ n ∈ nodes, n.name = placement.node ∧
      n.hasLabel r.config.spotLabel ∧ ¬ n.hasLabel r.config.onDemandLabel
  /-- The pods get the grace period of the settings. -/
  gracePeriod : order.gracePeriod = r.config.maxGracefulTermination
  /-- Their eviction is tried for as long as the settings say. -/
  evictionTimeout : order.evictionTimeout = r.config.podEvictionTimeout

variable {r : Rebalancer} {now : Instant} {nodes : List Node} {pods : List Pod}
  {budgets : List DisruptionBudget} {node : Node} {moved : List Pod}

/-- The pods that a load keeps of a listing and that must move are those of the listing that must
leave the node. -/
theorem filter_boundTo_live (pods : List Pod) (name : String) :
    (Snapshot.boundTo (Snapshot.live pods) name).filter Pod.isRelocatable =
      pods.filter fun p => !p.phase.isTerminal && p.nodeName == some name && p.isRelocatable := by
  rw [Snapshot.boundTo, Snapshot.live, List.filter_filter, List.filter_filter]
  refine List.filter_congr fun p _ => ?_
  cases p.phase.isTerminal <;> cases p.nodeName == some name <;> cases p.isRelocatable <;> rfl

/-- The destinations of a plan for the spot nodes of a listing are listed spot nodes. -/
theorem destination_listed {labels : RoleLabels} {judge : FitJudge} {plan : DrainPlan}
    (hplan : DrainPlan.plan judge (Snapshot.ofListing labels nodes pods).spot moved = .ok plan)
    {placement : Placement} (hplacement : placement ∈ plan.placements) :
    ∃ n ∈ nodes, n.name = placement.node ∧ n.hasLabel labels.spot ∧
      ¬ n.hasLabel labels.onDemand := by
  obtain ⟨load, hload, hname⟩ := List.mem_map.1 (DrainPlan.placement_node_mem hplan hplacement)
  obtain ⟨hlisted, hspot, honDemand⟩ := Snapshot.mem_spot_ofListing hload
  exact ⟨load.node, (Snapshot.mem_loads hlisted).1, hname, hspot, honDemand⟩

/-- **What moves from the first drainable node** is all that is listed on it and must move, and
there is a plan for it. -/
theorem moved_of_firstDrainable {labels : RoleLabels}
    (hfirst : Survey.firstDrainable? ⟨.ofListing labels nodes pods, budgets⟩ {} =
      some (node, moved)) :
    (∃ load ∈ (Snapshot.ofListing labels nodes pods).onDemand, load.node = node) ∧
      moved ≠ [] ∧ (∀ p ∈ moved, p.Evictable budgets) ∧
      (moved = pods.filter fun p => !p.phase.isTerminal && p.nodeName == some node.name &&
        p.isRelocatable) ∧
      ∃ plan, DrainPlan.plan Fit.obstacle? (Snapshot.ofListing labels nodes pods).spot moved =
        .ok plan := by
  obtain ⟨before, load, after, hsplit, rfl, ⟨plan, hverdict⟩, -⟩ :=
    Survey.firstDrainable?_eq_some_iff.1 hfirst
  obtain ⟨hmoved, hne, hplan⟩ := Policy.verdict_eq_drainable_iff.1 hverdict
  obtain ⟨hmoved_eq, hevictable⟩ := Relocation.podsToMove_eq_ok_iff.1 hmoved
  have hload : load ∈ (Snapshot.ofListing labels nodes pods).onDemand := by
    rw [hsplit]
    exact List.mem_append_right _ List.mem_cons_self
  obtain ⟨-, hpods⟩ := Snapshot.mem_loads (Snapshot.mem_onDemand_ofListing hload).1
  -- an empty load has no pods to move, so this is not a node whose name was listed before
  have hpods : load.pods = Snapshot.boundTo (Snapshot.live pods) load.node.name := by
    refine hpods.resolve_left fun hempty => hne ?_
    rw [hmoved_eq, hempty, List.filter_nil]
  exact ⟨⟨load, hload, rfl⟩, hne, hevictable, by rw [hmoved_eq, hpods, filter_boundTo_live],
    plan, hplan⟩

/-- **The order to drain the first drainable node is safe** once no cooldown lasts. -/
theorem safeOrder_of_firstDrainable (hpolicy : r.policy = {}) (hready : r.coolingUntil? now = none)
    (hdry : r.config.dryRun = false)
    (hfirst : Survey.firstDrainable? ⟨.ofListing r.config.roleLabels nodes pods, budgets⟩ r.policy =
      some (node, moved)) :
    SafeOrder r now nodes pods budgets (r.order node moved) := by
  obtain ⟨before, load, after, hsplit, hnode, -, hbefore⟩ :=
    Survey.firstDrainable?_eq_some_iff.1 hfirst
  rw [hpolicy] at hfirst
  obtain ⟨⟨listed, hload, rfl⟩, hne, hevictable, hmoved_eq, plan, hplan⟩ :=
    moved_of_firstDrainable hfirst
  obtain ⟨hlisted, honDemand, hspot⟩ := Snapshot.mem_onDemand_ofListing hload
  exact
    { not_dryRun := hdry
      ready := coolingUntil?_eq_none_iff.1 hready
      listed := (Snapshot.mem_loads hlisted).1
      onDemand := honDemand
      not_spot := hspot
      first := ⟨before, load, after, hsplit, hnode, hbefore⟩
      nonempty := hne
      pods_eq := hmoved_eq
      evictable := hevictable
      planned := ⟨plan, hplan, DrainPlan.placements_pods hplan, fun _ => destination_listed hplan⟩
      gracePeriod := rfl
      evictionTimeout := rfl }

/-- **Drains are safe.** A cycle under the usual policy orders at most one drain. If it orders one,
it has asked for nothing before but the four listings, which all succeeded and showed no pod that
the scheduler cannot place, and the order is safe given what they showed. -/
theorem orders_safe (r : Rebalancer) (env : Environment σ) (now : Instant) (s : σ)
    (hpolicy : r.policy = {}) :
    (Call.orders (r.calls env now s)).length ≤ 1 ∧
      ∀ order ∈ Call.orders (r.calls env now s), ∃ nodes pods budgets answer took,
        r.calls env now s = Call.listings nodes pods budgets ++ [.drain order answer took] ∧
          SafeOrder r now nodes pods budgets order := by
  have htranscript := transcript_cycle r env now s
  generalize r.calls env now s = calls at htranscript
  cases htranscript with
  | idle horders => simp [horders]
  | named => simp [Call.orders_listings]
  | @ordered nodes pods budgets node moved answer took _ hready hfirst hdry =>
    rw [Call.orders_listings_drain]
    refine ⟨Nat.le_refl 1, fun order horder => ?_⟩
    obtain rfl := List.mem_singleton.1 horder
    exact ⟨nodes, pods, budgets, answer, took, rfl,
      safeOrder_of_firstDrainable hpolicy hready hdry hfirst⟩

/-- An on-demand node with one core. -/
def worker : Node where
  name := "worker"
  labels := .ofList [("node-role.kubernetes.io/worker", "")]
  allocatable := { cpuMillis := 1000, pods := 10 }

/-- A spot node with one core. -/
def spotWorker : Node where
  name := "spot"
  labels := .ofList [("node-role.kubernetes.io/spot-worker", "")]
  allocatable := { cpuMillis := 1000, pods := 10 }

/-- A replica on the on-demand node. -/
def replica : Pod where
  ns := "default"
  name := "replica"
  nodeName := some "worker"
  owners := [⟨"ReplicaSet", "web", true⟩]
  requests := { cpuMillis := 400 }

/-- A cluster in which the replica can move to the spot node. Drains take five seconds. -/
def movable : LocalCluster where
  nodes := [worker, spotWorker]
  pods := [replica]
  budgets := [⟨"default", "web", {}, 1⟩]
  drainTakes := .ofSeconds 5

/-- In that cluster a cycle orders the drain of the on-demand node, and the order is safe. -/
theorem orders_safe_movable :
    let r := Rebalancer.new {} {}
    let order : DrainOrder := ⟨worker, [replica], .ofSeconds 120, .ofSeconds 120⟩
    r.calls LocalCluster.environment ⟨0, 0⟩ movable =
        Call.listings [worker, spotWorker] [replica] movable.budgets ++
          [.drain order (.ok ()) (.ofSeconds 5)] ∧
      ∃ nodes pods budgets, SafeOrder r ⟨0, 0⟩ nodes pods budgets order := by
  intro r order
  have hcalls : r.calls LocalCluster.environment ⟨0, 0⟩ movable =
      Call.listings [worker, spotWorker] [replica] movable.budgets ++
        [.drain order (.ok ()) (.ofSeconds 5)] := by
    with_unfolding_all rfl
  have horder : order ∈ Call.orders (r.calls LocalCluster.environment ⟨0, 0⟩ movable) := by
    rw [hcalls]
    exact List.mem_singleton_self _
  obtain ⟨nodes, pods, budgets, answer, took, -, hsafe⟩ :=
    (orders_safe r LocalCluster.environment ⟨0, 0⟩ movable rfl).2 order horder
  exact ⟨hcalls, nodes, pods, budgets, hsafe⟩

end Rebalancer

end SpotRebalance
