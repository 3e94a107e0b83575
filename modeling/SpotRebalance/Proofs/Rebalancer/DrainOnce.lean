import Mathlib.Data.List.Nodup
import SpotRebalance.Proofs.Rebalancer.DrainSafety
import SpotRebalance.Proofs.Rebalancer.Failure

/-! # Nodes are drained once

On a local cluster that evicts, a drain that succeeds removes every relocatable pod of its node
(`Emptied`). A cycle does nothing else to the pods, and a drain that fails removes none
(`LocalCycle.Evicts`, `DrainsLocally.evicts_cycle`).

A node without relocatable pods is **cleared**. It stays so through every cycle and every change
that adds no pods (`LocalCluster.Cleared.of_subset`, `LocalCluster.Cleared.apply`), and a cleared
node is not drained, whatever happens to nodes, budgets and listings. So a run without new pods
drains no node successfully twice (`drained_once`). -/

namespace SpotRebalance

namespace LocalCluster

variable {c : LocalCluster} {node : String}

/-! ## Clusters that evict -/

/-- The pods that a drain of a node has to move. -/
def relocatableOn (c : LocalCluster) (node : String) : List Pod :=
  c.pods.filter fun p => p.nodeName == some node && p.isRelocatable

/-- Whether a pod shares its key with one of some pods. -/
def sharesKey (pods : List Pod) (p : Pod) : Bool := pods.any fun q => q.key == p.key

/-- Removing pods one after the other leaves those that share no key with any of them. -/
theorem foldl_removePod (c : LocalCluster) (pods : List Pod) :
    pods.foldl (fun c p => c.removePod p.key) c =
      { c with pods := c.pods.filter fun p => !sharesKey pods p } := by
  induction pods generalizing c with
  | nil => simp [sharesKey]
  | cons q pods ih =>
    rw [List.foldl_cons, ih]
    simp only [removePod, List.filter_filter, LocalCluster.mk.injEq, true_and, and_true]
    refine List.filter_congr fun p _ => ?_
    simp [sharesKey, bne, Bool.and_comm, Bool.beq_comm (a := p.key)]

/-- **A drain fails and removes nothing, or succeeds and removes its pods**, if the cluster
evicts. -/
theorem finishDrain_cases (hevicting : c.evicting = true) (order : DrainOrder) :
    (∃ e, c.finishDrain order = (.error e, { c with calls := c.calls ++ [order.call] })) ∨
      c.finishDrain order =
        (.ok (), { c with
          pods := c.pods.filter fun p => !sharesKey order.pods p
          calls := c.calls ++ [order.call] }) := by
  rw [finishDrain]
  cases c.drainFailure with
  | some reason => exact Or.inl ⟨_, rfl⟩
  | none =>
    right
    simp only [hevicting, if_true, foldl_removePod]

/-- A complete survey of a local cluster shows what it holds, and leaves it alone. -/
theorem survey_eq_ok {labels : RoleLabels} {survey : Survey} {took : Duration}
    {after : LocalCluster} (h : environment.survey labels c = ⟨.ok survey, took, after⟩) :
    after = c ∧ ∃ nodes, survey = ⟨.ofListing labels nodes c.pods, c.budgets⟩ := by
  have hquiet := listsQuietly_environment.survey labels c
  rw [h] at hquiet
  refine ⟨hquiet, ?_⟩
  -- a listing that succeeds shows all that the cluster holds of its kind
  have hlisting {α : Type} {listed : Listing} {items shown : List α}
      (hshown : c.listing listed items = .ok shown) :
      shown = items := by
    rw [listing] at hshown
    split at hshown
    · cases hshown
    · exact (Except.ok.inj hshown).symm
  rw [Environment.survey] at h
  cases hnodes : c.listNodes with
  | error e =>
    have hreply : environment.nodes c = ⟨.error e, ⟨0⟩, c⟩ := by simp [environment, hnodes]
    rw [Exchange.andThen_error hreply] at h
    cases h
  | ok nodes =>
    have hreply : environment.nodes c = ⟨.ok nodes, ⟨0⟩, c⟩ := by simp [environment, hnodes]
    rw [Exchange.andThen_ok hreply] at h
    cases hpods : c.listPods with
    | error e =>
      have hreply : environment.pods c = ⟨.error e, ⟨0⟩, c⟩ := by simp [environment, hpods]
      rw [Exchange.andThen_error hreply] at h
      cases h
    | ok pods =>
      have hreply : environment.pods c = ⟨.ok pods, ⟨0⟩, c⟩ := by simp [environment, hpods]
      obtain rfl := hlisting hpods
      rw [Exchange.andThen_ok hreply] at h
      cases hbudgets : c.listBudgets with
      | error e =>
        have hreply : environment.budgets c = ⟨.error e, ⟨0⟩, c⟩ := by simp [environment, hbudgets]
        rw [Exchange.map_eq hreply] at h
        cases h
      | ok budgets =>
        have hreply : environment.budgets c = ⟨.ok budgets, ⟨0⟩, c⟩ := by
          simp [environment, hbudgets]
        obtain rfl := hlisting hbudgets
        rw [Exchange.map_eq hreply] at h
        cases h
        exact ⟨nodes, rfl⟩

/-! ## Cleared nodes -/

/-- **A node is cleared**: it has no relocatable pods. -/
def Cleared (c : LocalCluster) (node : String) : Prop := c.relocatableOn node = []

/-- **A cluster was emptied of the relocatable pods of a node.** -/
structure Emptied (c : LocalCluster) (node : String) (after : LocalCluster) : Prop where
  /-- There were some. -/
  occupied : ¬ c.Cleared node
  /-- All pods are gone that share a key with one of them, and no others. -/
  pods_eq : after.pods = c.pods.filter fun p => !sharesKey (c.relocatableOn node) p
  /-- None of them is left. -/
  cleared : after.Cleared node
  /-- If all pods have keys of their own, no other pod is gone. -/
  only : (c.pods.map (·.key)).Nodup → after.pods = c.pods.filter fun p =>
    !(p.nodeName == some node && p.isRelocatable)

/-- Without the pods that share a key with a relocatable one, a node is emptied. -/
theorem Emptied.of_pods_eq {after : LocalCluster} (hoccupied : c.relocatableOn node ≠ [])
    (hpods : after.pods = c.pods.filter fun p => !sharesKey (c.relocatableOn node) p) :
    Emptied c node after where
  occupied := hoccupied
  pods_eq := hpods
  cleared := by
    rw [Cleared, relocatableOn, hpods, List.filter_filter, List.filter_eq_nil_iff]
    intro p hp hboth
    -- a relocatable pod that is left would share its key with itself
    obtain ⟨hrelocatable, hleft⟩ := Bool.and_eq_true_iff.1 hboth
    have hmem : p ∈ c.relocatableOn node := List.mem_filter.2 ⟨hp, hrelocatable⟩
    have hshares : sharesKey (c.relocatableOn node) p := List.any_eq_true.2 ⟨p, hmem, by simp⟩
    simp [hshares] at hleft
  only hdistinct := by
    rw [hpods]
    refine List.filter_congr fun p hp => ?_
    congr 1
    rw [Bool.eq_iff_iff, sharesKey, List.any_eq_true]
    constructor
    · rintro ⟨q, hq, hkey⟩
      obtain ⟨hq, hrelocatable⟩ := List.mem_filter.1 hq
      obtain rfl := List.inj_on_of_nodup_map hdistinct hq hp (beq_iff_eq.1 hkey)
      exact hrelocatable
    · intro hrelocatable
      exact ⟨p, List.mem_filter.2 ⟨hp, hrelocatable⟩, by simp⟩

/-- A node stays cleared while pods are only removed. -/
theorem Cleared.of_subset {after : LocalCluster} (h : c.Cleared node)
    (hsubset : after.pods ⊆ c.pods) :
    after.Cleared node := by
  rw [Cleared, relocatableOn, List.filter_eq_nil_iff] at h ⊢
  exact fun p hp => h p (hsubset hp)

/-- Whether a change adds a pod that may be bound to a node. -/
def Change.addsPod : Change → Bool
  | addPod _ => true
  | addNode _ | addBudget _ | addUnschedulable _ | clearUnschedulable
  | removePod _ | removeNode _ | failListing _
  | healListings | failDrains _ | healDrains | slowDrains _ => false

/-- **A node stays cleared through every change that adds no pods.** -/
theorem Cleared.apply {change : Change} (h : c.Cleared node) (hadds : change.addsPod = false) :
    (c.apply change).Cleared node := by
  cases change with
  | addPod => cases hadds
  | removePod key => exact h.of_subset (List.filter_subset_self _)
  | addNode | addBudget | addUnschedulable | clearUnschedulable | removeNode | failListing
  | healListings | failDrains
  | healDrains | slowDrains => exact h

/-- No change keeps a cluster from evicting. -/
theorem evicting_apply (c : LocalCluster) (change : Change) :
    (c.apply change).evicting = c.evicting := by
  cases change <;> rfl

end LocalCluster

/-! ## Cycles on a local cluster -/

/-- What a cycle did to a local cluster. -/
structure LocalCycle where
  /-- The cluster before the cycle. -/
  before : LocalCluster
  /-- What the cycle came to. -/
  result : Except RebalanceError Outcome
  /-- The cluster after the cycle. -/
  after : LocalCluster

namespace LocalCycle

/-- The node that the cycle drained, if it did. -/
def drainedNode? (cycle : LocalCycle) : Option String :=
  match cycle.result with
  | .ok (.drained node _) => some node
  | .ok (.coolingDown _) | .ok (.unschedulablePods _) | .ok .noOnDemandNodes
  | .ok (.nothingDrainable _)
  | .ok (.drainFailed ..) | .ok (.dryRun ..) | .error _ => none

/-- **A cycle evicts the pods of the node that it drains**, and changes nothing else. -/
structure Evicts (cycle : LocalCycle) : Prop where
  /-- If it drained a node, the relocatable pods of that node are gone. -/
  drained : ∀ node, cycle.drainedNode? = some node → cycle.before.Emptied node cycle.after
  /-- If it drained none, no pod is gone. -/
  kept : cycle.drainedNode? = none → cycle.after.pods = cycle.before.pods
  /-- Only the pods and the log of drains may change. -/
  others : cycle.after = { cycle.before with pods := cycle.after.pods, calls := cycle.after.calls }

/-- A cycle that evicts only removes pods. -/
theorem Evicts.pods_subset {cycle : LocalCycle} (h : cycle.Evicts) :
    cycle.after.pods ⊆ cycle.before.pods := by
  cases hdrained : cycle.drainedNode? with
  | none =>
    rw [h.kept hdrained]
    exact List.Subset.refl _
  | some node =>
    rw [(h.drained node hdrained).pods_eq]
    exact List.filter_subset_self _

end LocalCycle

namespace Rebalancer

variable {r : Rebalancer} {c : LocalCluster} {now : Instant}

/-- An outcome of a cycle that leaves a cluster as it is, and drains nothing. -/
theorem evicts_of_eq {result : Except RebalanceError Outcome}
    (hidle : (LocalCycle.mk c result c).drainedNode? = none) :
    (LocalCycle.mk c result c).Evicts where
  drained node hdrained := by
    rw [hidle] at hdrained
    cases hdrained
  kept _ := rfl
  others := rfl

/-- A result that is no attempt drained nothing. -/
theorem drainedNode?_of_not_attempted {result : Except RebalanceError Outcome}
    {after : LocalCluster} (hidle : attempted result = false) :
    (LocalCycle.mk c result after).drainedNode? = none := by
  cases result with
  | error e => rfl
  | ok outcome =>
    cases outcome with
    | drained => cases hidle
    | coolingDown | unschedulablePods | noOnDemandNodes | nothingDrainable | drainFailed
    | dryRun => rfl

/-- The drain of the first drainable node evicts its pods if it succeeds. -/
theorem evicts_drain {labels : RoleLabels} {nodes : List Node} {shown : List Measurement}
    {node : Node} {moved : List Pod} (hevicting : c.evicting = true)
    (hdry : r.config.dryRun = false)
    (hfirst : Survey.firstDrainable? ⟨.ofListing labels nodes c.pods, c.budgets⟩ {} =
      some (node, moved)) :
    (LocalCycle.mk c (r.drain LocalCluster.environment now shown node moved c).answer.result
      (r.drain LocalCluster.environment now shown node moved c).state).Evicts := by
  obtain ⟨-, hne, -, hmoved, -⟩ := moved_of_firstDrainable hfirst
  -- a pod that has ended need not move, so the pods that move are all relocatable ones
  have hrelocatable : moved = c.relocatableOn node.name := by
    rw [hmoved, LocalCluster.relocatableOn]
    refine List.filter_congr fun p _ => ?_
    rw [Pod.isRelocatable, Pod.isEnding]
    cases p.phase.isTerminal <;> simp
  rcases LocalCluster.finishDrain_cases hevicting (r.order node moved) with ⟨e, hfinish⟩ | hfinish
  · have hdrain : LocalCluster.environment.drain (r.order node moved) c =
        ⟨.error e, c.drainTakes, { c with calls := c.calls ++ [(r.order node moved).call] }⟩ := by
      simp only [LocalCluster.environment, hfinish]
    rw [drain_of_not_dryRun hdry hdrain]
    exact ⟨fun _ hdrained => (by cases hdrained), fun _ => rfl, rfl⟩
  · have hdrain : LocalCluster.environment.drain (r.order node moved) c =
        ⟨.ok (), c.drainTakes,
          { c with
            pods := c.pods.filter fun p => !LocalCluster.sharesKey moved p
            calls := c.calls ++ [(r.order node moved).call] }⟩ := by
      simp only [LocalCluster.environment, hfinish]
      rfl
    rw [drain_of_not_dryRun hdry hdrain]
    refine ⟨fun name hdrained => ?_, fun hnone => (by cases hnone), rfl⟩
    obtain rfl : node.name = name := Option.some.inj hdrained
    have hoccupied : c.relocatableOn node.name ≠ [] := hrelocatable ▸ hne
    exact .of_pods_eq hoccupied (by rw [← hrelocatable])

/-- A cycle of a rebalancer on a local cluster. -/
def localCycle (r : Rebalancer) (c : LocalCluster) (now : Instant) : LocalCycle :=
  let reply := r.runAt LocalCluster.environment now c
  ⟨c, reply.answer.result, reply.state⟩

/-- **The usual rebalancer works on a cluster that evicts.** -/
structure DrainsLocally (r : Rebalancer) (c : LocalCluster) : Prop where
  /-- Nodes are judged as usual. -/
  policy : r.policy = {}
  /-- A drain that succeeds removes the evicted pods. -/
  evicting : c.evicting = true

/-- **Every cycle evicts the pods of the node that it drains**, and changes nothing else. -/
theorem DrainsLocally.evicts_cycle (h : DrainsLocally r c) (now : Instant) :
    (r.localCycle c now).Evicts := by
  have hcourse := course_cycle r LocalCluster.environment now c
  have hkept := hcourse.state_eq LocalCluster.listsQuietly_environment
  change (LocalCycle.mk c (r.cycle LocalCluster.environment now c).answer.result
    (r.cycle LocalCluster.environment now c).state).Evicts
  generalize r.cycle LocalCluster.environment now c = reply at hcourse hkept
  -- without an attempt that is ordered, the cluster is left alone and no node was drained
  have hidle (hnone : attempted reply.answer.result = false) :
      (LocalCycle.mk c reply.answer.result reply.state).Evicts := by
    rw [hkept (.inr hnone)]
    exact evicts_of_eq (drainedNode?_of_not_attempted hnone)
  cases hcourse with
  | cooling | waiting =>
    refine hidle ?_
    simp only [Reply.answer_delayed, result_measureOnly]
    rfl
  | unlisted | unsurveyed | deserted | stuck => exact hidle rfl
  | @attempt survey node moved wait took s₁ s₂ hgates hsurvey hfirst =>
    cases hdry : r.config.dryRun with
    | true =>
      rw [hkept (.inl hdry)]
      refine evicts_of_eq ?_
      rw [drain_of_dryRun hdry]
      rfl
    | false =>
      obtain rfl : c = s₁ := by
        have hplaced := LocalCluster.listsQuietly_environment.unschedulablePods c
        rw [hgates.placed] at hplaced
        exact hplaced.symm
      obtain ⟨rfl, nodes, rfl⟩ := LocalCluster.survey_eq_ok hsurvey
      rw [h.policy] at hfirst
      exact evicts_drain h.evicting hdry hfirst

/-- A change of the cluster keeps it evicting. -/
theorem DrainsLocally.apply (h : DrainsLocally r c) (change : LocalCluster.Change) :
    DrainsLocally r (c.apply change) where
  policy := h.policy
  evicting := (c.evicting_apply change).trans h.evicting

/-- A cycle keeps the rebalancer usual and the cluster evicting. -/
theorem DrainsLocally.runAt (h : DrainsLocally r c) (now : Instant) :
    DrainsLocally (r.runAt LocalCluster.environment now c).answer.rebalancer
      (r.localCycle c now).after where
  policy := (runAt_rebalancer r LocalCluster.environment now c).1.trans h.policy
  evicting := by
    rw [(h.evicts_cycle now).others]
    exact h.evicting

/-! ## Runs on a local cluster -/

/-- What happens next to a local cluster and its rebalancer. -/
inductive LocalStep where
  /-- The cluster changes. -/
  | change (change : LocalCluster.Change)
  /-- Budgets are removed, unless they are kept. -/
  | keepBudgets (kept : DisruptionBudget → Bool)
  /-- The rebalancer runs a cycle. -/
  | cycle (now : Instant)

/-- Whether a step adds a pod that may be bound to a node. -/
def LocalStep.addsPod : LocalStep → Bool
  | .change made => made.addsPod
  | .keepBudgets _ | .cycle _ => false

/-- The cycles of a run, in order, in which the cluster changes between the cycles. -/
def localCycles (r : Rebalancer) (c : LocalCluster) : List LocalStep → List LocalCycle
  | [] => []
  | .change change :: steps => r.localCycles (c.apply change) steps
  | .keepBudgets kept :: steps => r.localCycles { c with budgets := c.budgets.filter kept } steps
  | .cycle now :: steps =>
    r.localCycle c now ::
      (r.runAt LocalCluster.environment now c).answer.rebalancer.localCycles
        (r.localCycle c now).after steps

/-- The nodes that a run drained, in order. -/
def localDrains (r : Rebalancer) (c : LocalCluster) (steps : List LocalStep) : List String :=
  (r.localCycles c steps).filterMap (·.drainedNode?)

/-- **Every cycle of a run evicts the pods of the node that it drains**, and changes nothing
else. -/
theorem DrainsLocally.evicts_cycles (h : DrainsLocally r c) (steps : List LocalStep) :
    ∀ cycle ∈ r.localCycles c steps, cycle.Evicts := by
  induction steps generalizing r c with
  | nil => simp [localCycles]
  | cons step steps ih =>
    cases step with
    | change change => exact ih (h.apply change)
    | keepBudgets kept => exact ih ⟨h.policy, h.evicting⟩
    | cycle now =>
      rw [localCycles, List.forall_mem_cons]
      exact ⟨h.evicts_cycle now, ih (h.runAt now)⟩

/-- **A cleared node is not drained** in the rest of a run without new pods. -/
theorem DrainsLocally.not_drained_of_cleared {node : String} (h : DrainsLocally r c)
    (hcleared : c.Cleared node) {steps : List LocalStep}
    (hadds : ∀ step ∈ steps, step.addsPod = false) : node ∉ r.localDrains c steps := by
  induction steps generalizing r c with
  | nil => simp [localDrains, localCycles]
  | cons step steps ih =>
    obtain ⟨hadd, hlater⟩ := List.forall_mem_cons.1 hadds
    cases step with
    | change change => exact ih (h.apply change) (hcleared.apply hadd) hlater
    | keepBudgets kept => exact ih ⟨h.policy, h.evicting⟩ hcleared hlater
    | cycle now =>
      have hevicts := h.evicts_cycle now
      have hrest := ih (h.runAt now) (hcleared.of_subset hevicts.pods_subset) hlater
      rw [localDrains, localCycles, List.filterMap_cons]
      split
      · exact hrest
      · next name hdrained =>
        -- the cycle itself drains only a node that is not cleared
        have hne : node ≠ name := by
          rintro rfl
          exact (hevicts.drained node hdrained).occupied hcleared
        exact List.not_mem_cons_of_ne_of_not_mem hne hrest

/-- **Nodes are drained once.** In a run of the usual rebalancer on a local cluster that evicts, in
which cycles and changes of the cluster alternate arbitrarily, no node is drained successfully twice
as long as no pods are added. Every successful drain removes the relocatable pods of its node, and
nothing else if the pods have keys of their own, and a cycle without one removes no pods. -/
theorem drained_once (r : Rebalancer) (c : LocalCluster) (steps : List LocalStep)
    (h : DrainsLocally r c) :
    ((∀ step ∈ steps, step.addsPod = false) → (r.localDrains c steps).Nodup) ∧
      ∀ cycle ∈ r.localCycles c steps, cycle.Evicts := by
  refine ⟨fun hadds => ?_, h.evicts_cycles steps⟩
  induction steps generalizing r c with
  | nil => exact List.nodup_nil
  | cons step steps ih =>
    obtain ⟨-, hlater⟩ := List.forall_mem_cons.1 hadds
    cases step with
    | change change => exact ih r _ (h.apply change) hlater
    | keepBudgets kept => exact ih r _ ⟨h.policy, h.evicting⟩ hlater
    | cycle now =>
      have hrest := ih _ _ (h.runAt now) hlater
      rw [localDrains, localCycles, List.filterMap_cons]
      split
      · exact hrest
      · next node hdrained =>
        -- the cycle clears the node that it drains
        have hcleared := ((h.evicts_cycle now).drained node hdrained).cleared
        exact List.nodup_cons.2 ⟨(h.runAt now).not_drained_of_cleared hcleared hlater, hrest⟩

/-- The on-demand node of the cluster is drained once the drains succeed again, and not a second
time after it left and came back. -/
theorem drained_once_movable :
    let r := new {} {}
    let steps : List LocalStep :=
      [.change (.failDrains "refused"), .cycle ⟨0, 0⟩, .change .healDrains, .cycle ⟨605, 0⟩,
        .change (.removeNode "worker"), .change (.addNode worker), .cycle ⟨1210, 0⟩]
    r.DrainsLocally movable ∧ (∀ step ∈ steps, step.addsPod = false) ∧
      r.localDrains movable steps = ["worker"] ∧
      (r.localDrains movable steps).Nodup ∧ ∀ cycle ∈ r.localCycles movable steps,
        cycle.Evicts := by
  intro r steps
  have husual : r.DrainsLocally movable := ⟨rfl, rfl⟩
  have hadds : ∀ step ∈ steps, step.addsPod = false := by decide
  obtain ⟨honce, hevicts⟩ := drained_once r movable steps husual
  have hdrains : r.localDrains movable steps = ["worker"] := by decide +kernel
  exact ⟨husual, hadds, hdrains, honce hadds, hevicts⟩

end Rebalancer

end SpotRebalance
