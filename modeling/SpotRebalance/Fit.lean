import SpotRebalance.NodeLoad

/-! # Fitting a pod onto a node

Whether the scheduler could bind an unbound pod to a node, given the pods counted there. Predicates
are tried in a fixed order (`Fit.predicates`) and the first that fails gives the **obstacle**
(`Fit.obstacle?`).

Affinity is judged on the one node alone. A group wanted near is met by a pod on this very node;
without one, a hostname domain is unmet, and a wider domain may be met elsewhere, so it is refused
as unverifiable. A group wanted far in a wider domain is refused the same way. -/

namespace SpotRebalance

/-- Why a pod does not fit a node. -/
inductive FitObstacle where
  /-- The pod is still bound to a node. -/
  | staleBinding (node : String)
  /-- The node is cordoned. -/
  | nodeUnschedulable
  /-- The requests of the pod, or of one on the node, are not known. -/
  | unknownRequests (pod reason : String)
  /-- All pod slots are taken. -/
  | tooManyPods (count capacity : Nat)
  /-- The requests exceed what the node can allocate. -/
  | insufficientResources (requested free : Resources)
  /-- The node lacks a label of the pod's node selector. -/
  | nodeSelectorMismatch (key value : String)
  /-- No term of the node affinity accepts the node. -/
  | nodeAffinityMismatch
  /-- The pod does not tolerate a taint. -/
  | untoleratedTaint (key : String)
  /-- A host port is in use. -/
  | hostPortConflict (port : UInt16)
  /-- No pod on the node is in a group that must be near. -/
  | affinityUnsatisfied (topologyKey : String)
  /-- Pods of a group that must be near may be on nodes that are not looked at. -/
  | unverifiableAffinity (topologyKey : String)
  /-- A pod on the node and the pod must be apart. -/
  | antiAffinity (pod topologyKey : String)
  /-- Pods of a group that must be far may be on nodes that are not looked at. -/
  | unverifiableAntiAffinity (topologyKey : String)
  deriving DecidableEq

/-- The obstacle in words. -/
def FitObstacle.message : FitObstacle → String
  | staleBinding node => "pod is still bound to node " ++ node
  | nodeUnschedulable => "node is unschedulable"
  | unknownRequests pod reason => "requests of pod " ++ pod ++ " are unknown: " ++ reason
  | tooManyPods count capacity =>
    "node already runs " ++ toString count ++ " of " ++ toString capacity ++ " pods"
  | insufficientResources requested free =>
    "insufficient resources: requested " ++ requested.text ++ ", free " ++ free.text
  | nodeSelectorMismatch key value => "node selector " ++ key ++ "=" ++ value ++ " not satisfied"
  | nodeAffinityMismatch => "node affinity not satisfied"
  | untoleratedTaint key => "untolerated taint " ++ key
  | hostPortConflict port => "host port " ++ toString port.toNat ++ " already in use"
  | affinityUnsatisfied key => "affinity on topology " ++ key ++ " not satisfied"
  | unverifiableAffinity key =>
    "affinity on topology " ++ key ++ " can't be verified on a single node"
  | antiAffinity pod key => "anti-affinity with pod " ++ pod ++ " on topology " ++ key
  | unverifiableAntiAffinity key =>
    "anti-affinity on topology " ++ key ++ " can't be verified on a single node"

/-- A judgement of pods on nodes: the obstacle, or none if the pod fits. -/
abbrev FitJudge := Pod → NodeLoad → Option FitObstacle

namespace Fit

/-- The pod is bound to no node. -/
def unboundPod : FitJudge := fun pod _ => pod.nodeName.map .staleBinding

/-- The node is not cordoned. -/
def schedulableNode : FitJudge := fun _ load =>
  if load.node.unschedulable then some .nodeUnschedulable else none

/-- The requests of the pod and of all pods on the node are known. -/
def knownRequests : FitJudge := fun pod load =>
  (pod :: load.pods).findSome? fun p => p.requestError.map fun reason =>
    .unknownRequests p.key reason

/-- A pod slot is free; a node that offers no number of slots does not limit them. -/
def freeSlot : FitJudge := fun _ load =>
  let capacity := load.node.allocatable.pods.val
  if 0 < capacity ∧ capacity ≤ load.pods.length then some (.tooManyPods load.pods.length capacity)
  else none

/-- The requests of all pods on the node and of the pod stay within what the node can allocate. -/
def enoughResources : FitJudge := fun pod load =>
  if (load.requested + pod.requests).fitsWithin load.node.allocatable then none
  else some (.insufficientResources pod.requests load.free)

/-- The node has every label of the pod's node selector; the first lacking one in name order
counts. -/
def nodeSelector : FitJudge := fun pod load =>
  pod.nodeSelector.entries.findSome? fun e =>
    if load.node.labels.get? e.1 = some e.2 then none else some (.nodeSelectorMismatch e.1 e.2)

/-- The pod's node affinity accepts the node. -/
def nodeAffinity : FitJudge := fun pod load =>
  if pod.nodeAffinity.accepts load.node.labels then none else some .nodeAffinityMismatch

/-- Whether a taint keeps a pod off. -/
def isUntolerated (pod : Pod) (taint : Taint) : Bool :=
  taint.effect.blocks && !pod.tolerations.any (·.tolerates taint)

/-- The pod tolerates every taint that blocks scheduling. -/
def tolerated : FitJudge := fun pod load =>
  (load.node.taints.find? (isUntolerated pod)).map fun taint => .untoleratedTaint taint.key

/-- Whether a port conflicts with one of a pod on the node. -/
def isPortTaken (load : NodeLoad) (wanted : HostPort) : Bool :=
  load.pods.any fun p => p.hostPorts.any (·.conflictsWith wanted)

/-- No host port of the pod is in use. -/
def freeHostPorts : FitJudge := fun pod load =>
  (pod.hostPorts.find? (isPortTaken load)).map fun wanted => .hostPortConflict wanted.port

/-- Whether the node has a domain for a term of the pod, and on it a pod that the term selects. -/
def isNear (pod : Pod) (load : NodeLoad) (term : PodAffinityTerm) : Bool :=
  load.node.inDomain term.topologyKey &&
    load.pods.any fun p => term.selects pod.ns p.ns p.labels

/-- Every group that must be near has a pod on the node. -/
def nearGroups : FitJudge := fun pod load =>
  (pod.affinity.find? fun term => !isNear pod load term).map fun term =>
    if term.topologyKey = hostnameLabel ∨ ¬ load.node.inDomain term.topologyKey then
      .affinityUnsatisfied term.topologyKey
    else .unverifiableAffinity term.topologyKey

/-- The terms by which a pod keeps others apart on a node. -/
def repellents (load : NodeLoad) (pod : Pod) : List PodAffinityTerm :=
  pod.antiAffinity.filter fun term => load.node.inDomain term.topologyKey

/-- The pod keeps no pod on the node apart from itself. -/
def farGroups : FitJudge := fun pod load =>
  (repellents load pod).findSome? fun term =>
    (load.pods.find? fun p => term.selects pod.ns p.ns p.labels).map fun p =>
      .antiAffinity p.key term.topologyKey

/-- No pod on the node keeps the pod apart from itself. -/
def farFromOthers : FitJudge := fun pod load =>
  load.pods.findSome? fun p =>
    ((repellents load p).find? fun term => term.selects p.ns pod.ns pod.labels).map fun term =>
      .antiAffinity p.key term.topologyKey

/-- The pod keeps nothing apart in a domain wider than the node. -/
def verifiableDistance : FitJudge := fun pod load =>
  ((repellents load pod).find? fun term => term.topologyKey != hostnameLabel).map fun term =>
    .unverifiableAntiAffinity term.topologyKey

/-- All predicates, in the order in which they are tried. -/
def predicates : List FitJudge :=
  [unboundPod, schedulableNode, knownRequests, freeSlot, enoughResources, nodeSelector,
    nodeAffinity, tolerated, freeHostPorts, nearGroups, farGroups, farFromOthers,
    verifiableDistance]

/-- The first predicate that fails, if one does. -/
def obstacle? : FitJudge := fun pod load => predicates.findSome? fun predicate => predicate pod load

/-- Whether a judge finds no obstacle. -/
def accepts (judge : FitJudge) (pod : Pod) (load : NodeLoad) : Bool := (judge pod load).isNone

theorem obstacle?_eq_none_iff {pod : Pod} {load : NodeLoad} :
    obstacle? pod load = none ↔ ∀ predicate ∈ predicates, predicate pod load = none := by
  simp [obstacle?, List.findSome?_eq_none_iff]

/-- The judge that finds every pod to fit every node. -/
def everywhere : FitJudge := fun _ _ => none

/-- The judge that refuses the nodes of some names and otherwise agrees with `obstacle?`. -/
def outside (refused : List String) : FitJudge := fun pod load =>
  if refused.contains load.name then some .nodeUnschedulable else obstacle? pod load

end Fit

end SpotRebalance
