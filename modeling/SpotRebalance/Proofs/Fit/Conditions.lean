import SpotRebalance.Fit
import SpotRebalance.Proofs.Resources.Saturation

/-! # When a pod fits a node

The predicates are tried in a fixed order, but whether a pod fits does not depend on it: a pod fits
exactly if every condition holds (`obstacle?_eq_none_iff`). `Fits` lists the conditions as
statements about the pod, the node and the pods counted there, without the Boolean tests that decide
them; each predicate has one lemma that ties it to its condition.

The conditions that involve the pods on the node are symmetric in the sense that counts for plans:
if one pod fits beside another, and that other fitted before, then the other fits beside the one
(`Fits.add_of_fits`). -/

namespace SpotRebalance

namespace Fit

/-- **The conditions under which a pod fits a node**, given the pods counted there. -/
structure Fits (pod : Pod) (load : NodeLoad) : Prop where
  /-- The pod is bound to no node. -/
  unbound : pod.nodeName = none
  /-- The node is not cordoned. -/
  schedulable : load.node.unschedulable = false
  /-- The requests of the pod are known. -/
  known : pod.requestError = none
  /-- The requests of the pods on the node are known. -/
  known_others : ∀ p ∈ load.pods, p.requestError = none
  /-- A pod slot is free, if the node limits them. -/
  slot : 0 < load.node.allocatable.pods.val → load.pods.length < load.node.allocatable.pods.val
  /-- What all pods request together stays within what the node can allocate. -/
  resources : (NodeLoad.sumRequests (load.pods ++ [pod])).fitsWithin load.node.allocatable
  /-- The node has every label of the pod's node selector. -/
  selector : ∀ key value, pod.nodeSelector.get? key = some value →
    load.node.labels.get? key = some value
  /-- The pod's node affinity accepts the node. -/
  affinity : pod.nodeAffinity.accepts load.node.labels
  /-- The pod tolerates every taint that blocks scheduling. -/
  tolerated : ∀ taint ∈ load.node.taints, isUntolerated pod taint = false
  /-- No port of a pod on the node conflicts with one of the pod. -/
  ports : ∀ p ∈ load.pods, ∀ used ∈ p.hostPorts, ∀ wanted ∈ pod.hostPorts,
    used.conflictsWith wanted = false
  /-- Every group that must be near has a pod on the node. -/
  near : ∀ term ∈ pod.affinity, load.node.inDomain term.topologyKey ∧
    ∃ p ∈ load.pods, term.selects pod.ns p.ns p.labels
  /-- The pod keeps no pod on the node apart from itself. -/
  far : ∀ term ∈ pod.antiAffinity, load.node.inDomain term.topologyKey →
    ∀ p ∈ load.pods, term.selects pod.ns p.ns p.labels = false
  /-- No pod on the node keeps the pod apart from itself. -/
  far_others : ∀ p ∈ load.pods, ∀ term ∈ p.antiAffinity, load.node.inDomain term.topologyKey →
    term.selects p.ns pod.ns pod.labels = false
  /-- The pod keeps nothing apart in a domain wider than the node. -/
  verifiable : ∀ term ∈ pod.antiAffinity, load.node.inDomain term.topologyKey →
    term.topologyKey = hostnameLabel

/-! ## One lemma for each predicate -/

section Predicates

variable {pod : Pod} {load : NodeLoad}

theorem unboundPod_eq_none_iff : unboundPod pod load = none ↔ pod.nodeName = none := by
  simp [unboundPod]

theorem schedulableNode_eq_none_iff :
    schedulableNode pod load = none ↔ load.node.unschedulable = false := by
  simp [schedulableNode]

theorem knownRequests_eq_none_iff :
    knownRequests pod load = none ↔
      pod.requestError = none ∧ ∀ p ∈ load.pods, p.requestError = none := by
  simp [knownRequests, List.findSome?_eq_none_iff]

theorem freeSlot_eq_none_iff :
    freeSlot pod load = none ↔
      (0 < load.node.allocatable.pods.val → load.pods.length < load.node.allocatable.pods.val) := by
  simp [freeSlot]

theorem enoughResources_eq_none_iff :
    enoughResources pod load = none ↔
      (NodeLoad.sumRequests (load.pods ++ [pod])).fitsWithin load.node.allocatable := by
  rw [← NodeLoad.fitsWithin_requested_add]
  simp [enoughResources]

theorem nodeSelector_eq_none_iff :
    nodeSelector pod load = none ↔
      ∀ key value, pod.nodeSelector.get? key = some value →
        load.node.labels.get? key = some value := by
  simp only [nodeSelector, List.findSome?_eq_none_iff, ite_eq_left_iff, reduceCtorEq, imp_false,
    Decidable.not_not]
  constructor
  · intro h key value hget
    exact h (key, value) (NameTable.mem_entries_iff.2 hget)
  · intro h e he
    exact h e.1 e.2 (NameTable.mem_entries_iff.1 he)

theorem nodeAffinity_eq_none_iff :
    nodeAffinity pod load = none ↔ pod.nodeAffinity.accepts load.node.labels := by
  simp [nodeAffinity]

theorem tolerated_eq_none_iff :
    tolerated pod load = none ↔ ∀ taint ∈ load.node.taints, isUntolerated pod taint = false := by
  simp [Fit.tolerated]

theorem freeHostPorts_eq_none_iff :
    freeHostPorts pod load = none ↔
      ∀ p ∈ load.pods, ∀ used ∈ p.hostPorts, ∀ wanted ∈ pod.hostPorts,
        used.conflictsWith wanted = false := by
  simp only [freeHostPorts, isPortTaken, Option.map_eq_none_iff, List.find?_eq_none,
    List.any_eq_true, not_exists, not_and, Bool.not_eq_true]
  constructor
  · intro h p hp used hused wanted hwanted
    exact h wanted hwanted p hp used hused
  · intro h wanted hwanted p hp used hused
    exact h p hp used hused wanted hwanted

theorem isNear_iff {term : PodAffinityTerm} :
    isNear pod load term ↔ load.node.inDomain term.topologyKey ∧
      ∃ p ∈ load.pods, term.selects pod.ns p.ns p.labels := by
  simp [isNear]

theorem nearGroups_eq_none_iff :
    nearGroups pod load = none ↔
      ∀ term ∈ pod.affinity, load.node.inDomain term.topologyKey ∧
        ∃ p ∈ load.pods, term.selects pod.ns p.ns p.labels := by
  simp [nearGroups, isNear_iff]

theorem mem_repellents {term : PodAffinityTerm} :
    term ∈ repellents load pod ↔ term ∈ pod.antiAffinity ∧ load.node.inDomain term.topologyKey := by
  simp [repellents]

theorem farGroups_eq_none_iff :
    farGroups pod load = none ↔
      ∀ term ∈ pod.antiAffinity, load.node.inDomain term.topologyKey →
        ∀ p ∈ load.pods, term.selects pod.ns p.ns p.labels = false := by
  simp [farGroups, List.findSome?_eq_none_iff, mem_repellents]

theorem farFromOthers_eq_none_iff :
    farFromOthers pod load = none ↔
      ∀ p ∈ load.pods, ∀ term ∈ p.antiAffinity, load.node.inDomain term.topologyKey →
        term.selects p.ns pod.ns pod.labels = false := by
  simp [farFromOthers, List.findSome?_eq_none_iff, mem_repellents]

theorem verifiableDistance_eq_none_iff :
    verifiableDistance pod load = none ↔
      ∀ term ∈ pod.antiAffinity, load.node.inDomain term.topologyKey →
        term.topologyKey = hostnameLabel := by
  simp [verifiableDistance, mem_repellents]

/-- **A pod fits a node exactly if every condition holds**, whatever the order of the predicates. -/
theorem obstacle?_eq_none_iff_fits : obstacle? pod load = none ↔ Fits pod load := by
  -- one conjunct for each predicate, in the order in which they are tried; only the known requests
  -- make two fields
  simp only [obstacle?_eq_none_iff, predicates, List.forall_mem_cons, unboundPod_eq_none_iff,
    schedulableNode_eq_none_iff, knownRequests_eq_none_iff, freeSlot_eq_none_iff,
    enoughResources_eq_none_iff, nodeSelector_eq_none_iff, nodeAffinity_eq_none_iff,
    tolerated_eq_none_iff, freeHostPorts_eq_none_iff, nearGroups_eq_none_iff, farGroups_eq_none_iff,
    farFromOthers_eq_none_iff, verifiableDistance_eq_none_iff]
  constructor
  · rintro ⟨h₁, h₂, ⟨h₃, h₄⟩, h₅, h₆, h₇, h₈, h₉, h₁₀, h₁₁, h₁₂, h₁₃, h₁₄, -⟩
    exact ⟨h₁, h₂, h₃, h₄, h₅, h₆, h₇, h₈, h₉, h₁₀, h₁₁, h₁₂, h₁₃, h₁₄⟩
  · rintro ⟨h₁, h₂, h₃, h₄, h₅, h₆, h₇, h₈, h₉, h₁₀, h₁₁, h₁₂, h₁₃, h₁₄⟩
    exact ⟨h₁, h₂, ⟨h₃, h₄⟩, h₅, h₆, h₇, h₈, h₉, h₁₀, h₁₁, h₁₂, h₁₃, h₁₄, by simp⟩

/-- The judge finds no obstacle exactly if the pod fits. -/
theorem accepts_obstacle?_iff : accepts obstacle? pod load ↔ Fits pod load := by
  rw [accepts, Option.isNone_iff_eq_none, obstacle?_eq_none_iff_fits]

end Predicates

/-! ## Two pods on one node -/

/-- **Fitting is mutual.** A pod that fits beside the others on a node, and beside which one more
pod then fits, also fits beside the others and that one. The two pods fit in the order in which they
came, so they would have fitted in the other order. -/
theorem Fits.add_of_fits {q p : Pod} {n : Node} {others all : List Pod}
    (hperm : all.Perm (q :: others)) (hq : Fits q.unbound ⟨n, others⟩)
    (hp : Fits p.unbound ⟨n, all⟩) (name : String) :
    Fits q.unbound (NodeLoad.add ⟨n, others⟩ (p.boundTo name)) := by
  have hmem : q ∈ all := hperm.mem_iff.2 List.mem_cons_self
  -- what is asked of every pod on the node was asked of the others when `q` came, and is left to
  -- show of `p`
  have hsplit {P : Pod → Prop} (hothers : ∀ x ∈ others, P x) (hnew : P (p.boundTo name)) :
      ∀ x ∈ others ++ [p.boundTo name], P x := by
    intro x hx
    rcases List.mem_append.1 hx with hx | hx
    · exact hothers x hx
    · exact List.mem_singleton.1 hx ▸ hnew
  refine { hq with
    known_others := ?_, slot := ?_, resources := ?_, ports := ?_, near := ?_, far := ?_,
    far_others := ?_ }
  · exact hsplit hq.known_others hp.known
  · intro hlimit
    have hslot := hp.slot hlimit
    have hlength := hperm.length_eq
    simp only [NodeLoad.node_add, NodeLoad.pods_add, List.length_append, List.length_cons,
      List.length_nil] at *
    omega
  · -- the sum is the one that was checked when `p` came, with its last two parts in the other order
    have hsum : NodeLoad.sumRequests (others ++ [p.boundTo name] ++ [q.unbound]) =
        NodeLoad.sumRequests (all ++ [p.unbound]) := by
      have hall : NodeLoad.sumRequests all = NodeLoad.sumRequests (others ++ [q]) :=
        NodeLoad.sumRequests_perm (hperm.trans (List.perm_append_singleton q others).symm)
      simp only [NodeLoad.sumRequests_append_singleton, hall]
      exact Resources.add_right_comm ..
    exact hsum ▸ hp.resources
  · -- `p` was checked against the ports of `q`, and a conflict is mutual
    refine hsplit hq.ports fun used hused wanted hwanted => ?_
    rw [HostPort.conflictsWith_comm]
    exact hp.ports q hmem wanted hwanted used hused
  · -- a pod that was near stays near
    intro term hterm
    obtain ⟨hdomain, x, hx, hselects⟩ := hq.near term hterm
    exact ⟨hdomain, x, List.mem_append_left _ hx, hselects⟩
  · -- the two directions of anti-affinity change roles: to `p`, the terms of `q` were those of
    -- another pod
    intro term hterm hdomain
    exact hsplit (hq.far term hterm hdomain) (hp.far_others q hmem term hterm hdomain)
  · exact hsplit hq.far_others fun term hterm hdomain => hp.far term hterm hdomain q hmem

end Fit

end SpotRebalance
