import SpotRebalance.Proofs.Fit.ExactSums

/-! # Obstacles and what they name

A pod fits a node if eleven predicates hold (`FitPredicate.Holds`). They are tried in a fixed order
(`FitPredicate.inOrder`), and the obstacle that is reported belongs to the first one that fails. The
obstacle is **genuine** (`FitObstacle.Genuine`): what it names stands in the pod, on the node or in
a pod there, and is a reason why the predicate fails. A predicate fails only if there is something
that a genuine obstacle can name, so nothing at all speaks against a pod that fits
(`obstacle?_genuine`).

Each predicate has a judge, of one step or of several (`FitPredicate.judge`). One lemma says that it
finds no obstacle exactly if the predicate holds (`judge_eq_none_iff`), and one that the obstacles
it finds are genuine (`genuine_of_judge`). -/

namespace SpotRebalance

open Fit

/-! ## Predicates -/

section Reasons

variable (pod : Pod) (load : NodeLoad)

/-- **Two pods are kept apart on a node** by a term: it is a term of either that selects the other,
and the node has its key. -/
inductive Fit.KeptApart (other : Pod) (term : PodAffinityTerm) : Prop where
  /-- The incoming pod keeps the other one away. -/
  | own (hterm : term ∈ pod.antiAffinity) (hdomain : load.node.inDomain term.topologyKey)
    (hselects : term.selects pod.ns other.ns other.labels)
  /-- The other pod keeps the incoming one away. -/
  | other (hterm : term ∈ other.antiAffinity) (hdomain : load.node.inDomain term.topologyKey)
    (hselects : term.selects other.ns pod.ns pod.labels)

/-- **A group is missed**: the node does not have the key of the term, or the term selects no pod
there. -/
def Fit.Misses (term : PodAffinityTerm) : Prop :=
  load.node.inDomain term.topologyKey = false ∨
    ∀ p ∈ load.pods, term.selects pod.ns p.ns p.labels = false

/-- **The domain of a term reaches beyond the node**: the node has its key, which is not the
hostname. -/
def Fit.ReachesBeyond (term : PodAffinityTerm) : Prop :=
  term.topologyKey ≠ hostnameLabel ∧ load.node.inDomain term.topologyKey

/-- **A taint is tolerated** by some toleration of a pod. -/
def Fit.Tolerates (taint : Taint) : Prop :=
  ∃ toleration ∈ pod.tolerations, toleration.tolerates taint

end Reasons

/-- **The predicates of a fit.** That pods are kept apart is one predicate, whichever of them asks
for it. -/
inductive FitPredicate where
  /-- The pod is bound to no node. -/
  | unbound
  /-- The node is not cordoned. -/
  | schedulable
  /-- The requests of all pods are known. -/
  | knownRequests
  /-- A pod slot is free. -/
  | freeSlot
  /-- The resources of the node are enough. -/
  | resources
  /-- The node has the labels that the pod asks for. -/
  | nodeSelector
  /-- The node affinity of the pod accepts the node. -/
  | nodeAffinity
  /-- The pod tolerates the taints of the node. -/
  | taints
  /-- The host ports of the pod are free. -/
  | hostPorts
  /-- Every group that must be near is. -/
  | affinity
  /-- No group that must be far is near, or may be. -/
  | antiAffinity
  deriving DecidableEq

namespace FitPredicate

/-- All predicates, in the order in which they are reported. -/
def inOrder : List FitPredicate :=
  [unbound, schedulable, knownRequests, freeSlot, resources, nodeSelector, nodeAffinity, taints,
    hostPorts, affinity, antiAffinity]

/-- The predicates that are tried before another one. -/
def before (predicate : FitPredicate) : List FitPredicate := inOrder.takeWhile (· ≠ predicate)

/-- What a predicate asks of a pod, a node and the pods counted there. -/
def Holds (pod : Pod) (load : NodeLoad) : FitPredicate → Prop
  | unbound => pod.nodeName = none
  | schedulable => load.node.unschedulable = false
  | knownRequests => ∀ p ∈ pod :: load.pods, p.requestError = none
  | freeSlot => 0 < load.node.allocatable.pods.val →
      load.pods.length < load.node.allocatable.pods.val
  | resources => ∀ kind, total pod load kind ≤ (load.node.allocatable.amount kind).val ∨
      (load.node.allocatable.amount kind).val = Amount.greatest
  | nodeSelector => ∀ key value, pod.nodeSelector.get? key = some value →
      load.node.labels.get? key = some value
  | nodeAffinity => pod.nodeAffinity.accepts load.node.labels
  | taints => ∀ taint ∈ load.node.taints, taint.effect.blocks → Tolerates pod taint
  | hostPorts => ∀ p ∈ load.pods, ∀ used ∈ p.hostPorts, ∀ wanted ∈ pod.hostPorts,
      used.conflictsWith wanted = false
  | affinity => ∀ term ∈ pod.affinity, ¬ Misses pod load term
  | antiAffinity => (∀ p ∈ load.pods, ∀ term, ¬ KeptApart pod load p term) ∧
      ∀ term ∈ pod.antiAffinity, ¬ ReachesBeyond load term

/-- The judge of a predicate. -/
def judge : FitPredicate → FitJudge
  | unbound => unboundPod
  | schedulable => schedulableNode
  | knownRequests => Fit.knownRequests
  | freeSlot => Fit.freeSlot
  | resources => enoughResources
  | nodeSelector => Fit.nodeSelector
  | nodeAffinity => Fit.nodeAffinity
  | taints => tolerated
  | hostPorts => freeHostPorts
  | affinity => nearGroups
  | antiAffinity => fun pod load =>
    (farGroups pod load).or ((farFromOthers pod load).or (verifiableDistance pod load))

end FitPredicate

/-! ## Obstacles -/

namespace FitObstacle

/-- The predicate that an obstacle belongs to. -/
def predicate : FitObstacle → FitPredicate
  | staleBinding _ => .unbound
  | nodeUnschedulable => .schedulable
  | unknownRequests .. => .knownRequests
  | tooManyPods .. => .freeSlot
  | insufficientResources .. => .resources
  | nodeSelectorMismatch .. => .nodeSelector
  | nodeAffinityMismatch => .nodeAffinity
  | untoleratedTaint _ => .taints
  | hostPortConflict _ => .hostPorts
  | affinityUnsatisfied _ | unverifiableAffinity _ => .affinity
  | antiAffinity .. | unverifiableAntiAffinity _ => .antiAffinity

/-- **A genuine obstacle**: what it names is there, and stands against the pod. -/
inductive Genuine (pod : Pod) (load : NodeLoad) : FitObstacle → Prop where
  /-- The pod is bound to the node that is named. -/
  | staleBinding {node : String} (hbound : pod.nodeName = some node) :
      Genuine pod load (staleBinding node)
  /-- The node is cordoned. -/
  | nodeUnschedulable (hcordoned : load.node.unschedulable) : Genuine pod load nodeUnschedulable
  /-- The requests of the pod that is named are not known; it is the first such one, the incoming
  pod coming first. -/
  | unknownRequests {earlier later : List Pod} {p : Pod} {reason : String}
      (hpods : pod :: load.pods = earlier ++ p :: later)
    (hknown : ∀ q ∈ earlier, q.requestError = none) (hunknown : p.requestError = some reason) :
    Genuine pod load (unknownRequests p.key reason)
  /-- As many pods as the node has slots for are there. -/
  | tooManyPods (hlimited : 0 < load.node.allocatable.pods.val)
    (hfull : load.node.allocatable.pods.val ≤ load.pods.length) :
    Genuine pod load (tooManyPods load.pods.length load.node.allocatable.pods.val)
  /-- All pods together request more of some resource than the node can allocate. -/
  | insufficientResources {kind : ResourceKind} (hshort : (load.node.allocatable.amount kind).val <
      total pod load kind)
    (hlimited : (load.node.allocatable.amount kind).val < Amount.greatest) :
    Genuine pod load (insufficientResources pod.requests load.free)
  /-- The pod asks for a label that the node lacks. -/
  | nodeSelectorMismatch {key value : String} (hasked : pod.nodeSelector.get? key = some value)
    (hlacks : load.node.labels.get? key ≠ some value) :
      Genuine pod load (nodeSelectorMismatch key value)
  /-- The node affinity of the pod does not accept the node. -/
  | nodeAffinityMismatch (hrefused : pod.nodeAffinity.accepts load.node.labels = false) :
    Genuine pod load nodeAffinityMismatch
  /-- The pod does not tolerate a taint that keeps pods off, the first such one. -/
  | untoleratedTaint {earlier later : List Taint} {taint : Taint}
      (htaints : load.node.taints = earlier ++ taint :: later)
    (hearlier : ∀ t ∈ earlier, t.effect.blocks → Tolerates pod t) (hblocks : taint.effect.blocks)
    (huntolerated : ¬ Tolerates pod taint) : Genuine pod load (untoleratedTaint taint.key)
  /-- A port that the pod claims conflicts with one of a pod on the node. -/
  | hostPortConflict {wanted used : HostPort} {p : Pod} (hwanted : wanted ∈ pod.hostPorts)
      (hp : p ∈ load.pods)
    (hused : used ∈ p.hostPorts) (hconflict : used.conflictsWith wanted) :
      Genuine pod load (hostPortConflict wanted.port)
  /-- A group that must be near is missed, and the node decides that. -/
  | affinityUnsatisfied {term : PodAffinityTerm} (hterm : term ∈ pod.affinity)
      (hmisses : Misses pod load term)
    (hlocal : ¬ ReachesBeyond load term) : Genuine pod load (affinityUnsatisfied term.topologyKey)
  /-- A group that must be near is missed on the node, but its domain reaches beyond. -/
  | unverifiableAffinity {term : PodAffinityTerm} (hterm : term ∈ pod.affinity)
      (hmisses : Misses pod load term)
    (hbeyond : ReachesBeyond load term) : Genuine pod load (unverifiableAffinity term.topologyKey)
  /-- A pod on the node and the incoming one are kept apart. -/
  | antiAffinity {p : Pod} {term : PodAffinityTerm} (hp : p ∈ load.pods)
      (hapart : KeptApart pod load p term) :
    Genuine pod load (antiAffinity p.key term.topologyKey)
  /-- Nobody on the node is kept apart, but the domain of a term of the pod reaches beyond. -/
  | unverifiableAntiAffinity {term : PodAffinityTerm}
      (hnobody : ∀ p ∈ load.pods, ∀ t, ¬ KeptApart pod load p t)
    (hterm : term ∈ pod.antiAffinity) (hbeyond : ReachesBeyond load term) :
    Genuine pod load (unverifiableAntiAffinity term.topologyKey)

end FitObstacle

variable {pod : Pod} {load : NodeLoad} {obstacle : FitObstacle}

/-! ## When a predicate holds -/

namespace Fit

theorem isUntolerated_iff {taint : Taint} :
    isUntolerated pod taint ↔ taint.effect.blocks ∧ ¬ Tolerates pod taint := by
  simp [isUntolerated, Tolerates]

theorem isNear_eq_false_iff {term : PodAffinityTerm} :
    isNear pod load term = false ↔ Misses pod load term := by
  simp [isNear, Misses, Decidable.imp_iff_not_or]

theorem not_reachesBeyond_iff {term : PodAffinityTerm} :
    ¬ ReachesBeyond load term ↔
      (load.node.inDomain term.topologyKey → term.topologyKey = hostnameLabel) := by
  rw [ReachesBeyond, not_and_or, not_not, imp_iff_or_not]

end Fit

namespace FitPredicate

/-- Every predicate is tried. -/
theorem exists_inOrder_eq (predicate : FitPredicate) :
    ∃ later, inOrder = predicate.before ++ predicate :: later := by
  cases predicate <;> exact ⟨_, rfl⟩

theorem mem_inOrder (predicate : FitPredicate) : predicate ∈ inOrder := by
  cases predicate <;> decide

/-- The judges are asked in the order of the predicates. -/
theorem obstacle?_eq_findSome? :
    obstacle? pod load = inOrder.findSome? fun predicate => predicate.judge pod load := by
  simp only [obstacle?, predicates, inOrder, List.findSome?_cons, List.findSome?_nil, judge]
  -- only the last three steps are taken together
  cases farGroups pod load <;> cases farFromOthers pod load
    <;> cases verifiableDistance pod load <;> rfl

/-- The pod neither keeps others away nor is kept away exactly if nobody is kept apart. -/
theorem farGroups_and_farFromOthers_eq_none_iff :
    farGroups pod load = none ∧ farFromOthers pod load = none ↔
      ∀ p ∈ load.pods, ∀ term, ¬ KeptApart pod load p term := by
  rw [farGroups_eq_none_iff, farFromOthers_eq_none_iff]
  constructor
  · rintro ⟨hfar, hothers⟩ p hp term (⟨hterm, hdomain, hselects⟩ | ⟨hterm, hdomain, hselects⟩)
    · exact Bool.eq_false_iff.1 (hfar term hterm hdomain p hp) hselects
    · exact Bool.eq_false_iff.1 (hothers p hp term hterm hdomain) hselects
  · refine fun hapart => ⟨fun term hterm hdomain p hp => ?_, fun p hp term hterm hdomain => ?_⟩
    · exact Bool.eq_false_iff.2 fun hselects => hapart p hp term (.own hterm hdomain hselects)
    · exact Bool.eq_false_iff.2 fun hselects => hapart p hp term (.other hterm hdomain hselects)

/-- **A judge finds no obstacle exactly if its predicate holds.** -/
theorem judge_eq_none_iff (predicate : FitPredicate) :
    predicate.judge pod load = none ↔ predicate.Holds pod load := by
  cases predicate with
  | unbound => rw [judge, unboundPod_eq_none_iff, Holds]
  | schedulable => rw [judge, schedulableNode_eq_none_iff, Holds]
  | knownRequests => exact knownRequests_eq_none_iff.trans (by rw [Holds, List.forall_mem_cons])
  | freeSlot => rw [judge, freeSlot_eq_none_iff, Holds]
  | resources => exact enoughResources_eq_none_iff_totals
  | nodeSelector => exact nodeSelector_eq_none_iff
  | nodeAffinity => exact nodeAffinity_eq_none_iff
  | taints =>
    rw [judge, tolerated_eq_none_iff]
    simp only [Holds, ← Bool.not_eq_true, isUntolerated_iff, not_and, not_not]
  | hostPorts => exact freeHostPorts_eq_none_iff
  | affinity =>
    simp only [judge, nearGroups_eq_none_iff, Holds, ← isNear_iff, ← isNear_eq_false_iff,
      Bool.not_eq_false]
  | antiAffinity =>
    simp only [judge, Option.or_eq_none_iff, ← and_assoc, farGroups_and_farFromOthers_eq_none_iff,
      verifiableDistance_eq_none_iff, Holds, not_reachesBeyond_iff]

end FitPredicate

/-! ## What judges find -/

namespace FitObstacle

/-- The first pod of unknown requests is named. -/
theorem genuine_of_knownRequests (h : knownRequests pod load = some obstacle) :
    obstacle.predicate = .knownRequests ∧ obstacle.Genuine pod load := by
  obtain ⟨earlier, p, later, hpods, hp, hearlier⟩ := List.findSome?_eq_some_iff.1 h
  obtain ⟨reason, hunknown, rfl⟩ := Option.map_eq_some_iff.1 hp
  exact ⟨rfl, .unknownRequests hpods
    (fun q hq => Option.map_eq_none_iff.1 (hearlier q hq)) hunknown⟩

/-- If the resources are not enough, one of them is short. -/
theorem genuine_of_enoughResources (h : enoughResources pod load = some obstacle) :
    obstacle.predicate = .resources ∧ obstacle.Genuine pod load := by
  have hshort : ¬ ∀ kind, total pod load kind ≤ (load.node.allocatable.amount kind).val ∨
      (load.node.allocatable.amount kind).val = Amount.greatest := by
    rw [← enoughResources_eq_none_iff_totals, h]
    nofun
  obtain ⟨kind, hkind⟩ := not_forall.1 hshort
  have hle := (load.node.allocatable.amount kind).val_le_greatest
  rw [enoughResources] at h
  split at h
  · cases h
  · cases h
    have hexceeded : (load.node.allocatable.amount kind).val < total pod load kind := by omega
    exact ⟨rfl, .insufficientResources hexceeded (by omega)⟩

/-- The label that is named is asked for, and the node lacks it. -/
theorem genuine_of_nodeSelector (h : nodeSelector pod load = some obstacle) :
    obstacle.predicate = .nodeSelector ∧ obstacle.Genuine pod load := by
  obtain ⟨e, he, hlacks⟩ := List.exists_of_findSome?_eq_some h
  split at hlacks
  · cases hlacks
  · rename_i hne
    cases hlacks
    exact ⟨rfl, .nodeSelectorMismatch (NameTable.mem_entries_iff.1 he) hne⟩

/-- The first taint that is not tolerated is named. -/
theorem genuine_of_tolerated (h : tolerated pod load = some obstacle) :
    obstacle.predicate = .taints ∧ obstacle.Genuine pod load := by
  obtain ⟨taint, hfound, rfl⟩ := Option.map_eq_some_iff.1 h
  obtain ⟨huntolerated, earlier, later, htaints, hearlier⟩ := List.find?_eq_some_iff_append.1 hfound
  rw [isUntolerated_iff] at huntolerated
  refine ⟨rfl, .untoleratedTaint htaints (fun t ht hblocks => ?_) huntolerated.1 huntolerated.2⟩
  by_contra hrepels
  have hfree := hearlier t ht
  rw [isUntolerated_iff.2 ⟨hblocks, hrepels⟩] at hfree
  cases hfree

/-- The port that is named is claimed, and in use. -/
theorem genuine_of_freeHostPorts (h : freeHostPorts pod load = some obstacle) :
    obstacle.predicate = .hostPorts ∧ obstacle.Genuine pod load := by
  obtain ⟨wanted, hfound, rfl⟩ := Option.map_eq_some_iff.1 h
  have htaken := List.find?_some hfound
  simp only [isPortTaken, List.any_eq_true] at htaken
  obtain ⟨p, hp, used, hused, hconflict⟩ := htaken
  exact ⟨rfl, .hostPortConflict (List.mem_of_find?_eq_some hfound) hp hused hconflict⟩

/-- The group that is named is missed, and called unverifiable if its domain reaches beyond the
node. -/
theorem genuine_of_nearGroups (h : nearGroups pod load = some obstacle) :
    obstacle.predicate = .affinity ∧ obstacle.Genuine pod load := by
  obtain ⟨term, hfound, rfl⟩ := Option.map_eq_some_iff.1 h
  have hterm := List.mem_of_find?_eq_some hfound
  have hmisses : Misses pod load term := by
    simpa only [Bool.not_eq_true', isNear_eq_false_iff] using List.find?_some hfound
  split
  · rename_i hlocal
    exact ⟨rfl, .affinityUnsatisfied hterm hmisses fun hbeyond =>
      hlocal.elim hbeyond.1 (· hbeyond.2)⟩
  · rename_i hbeyond
    rw [not_or, not_not] at hbeyond
    exact ⟨rfl, .unverifiableAffinity hterm hmisses hbeyond⟩

/-- The pod that is named is kept apart; if none is, the term reaches beyond the node. -/
theorem genuine_of_antiAffinity (h : FitPredicate.antiAffinity.judge pod load = some obstacle) :
    obstacle.predicate = .antiAffinity ∧ obstacle.Genuine pod load := by
  simp only [FitPredicate.judge] at h
  rcases hfar : farGroups pod load with _ | found
  · rcases hothers : farFromOthers pod load with _ | found
    · rw [hfar, hothers] at h
      obtain ⟨term, hfound, rfl⟩ := Option.map_eq_some_iff.1 h
      obtain ⟨hterm, hdomain⟩ := mem_repellents.1 (List.mem_of_find?_eq_some hfound)
      have hwider : term.topologyKey ≠ hostnameLabel := by simpa using List.find?_some hfound
      have hnobody := FitPredicate.farGroups_and_farFromOthers_eq_none_iff.1 ⟨hfar, hothers⟩
      exact ⟨rfl, .unverifiableAntiAffinity hnobody hterm ⟨hwider, hdomain⟩⟩
    · rw [hfar, hothers] at h
      cases h
      obtain ⟨p, hp, hrepels⟩ := List.exists_of_findSome?_eq_some hothers
      obtain ⟨term, hfound, rfl⟩ := Option.map_eq_some_iff.1 hrepels
      obtain ⟨hterm, hdomain⟩ := mem_repellents.1 (List.mem_of_find?_eq_some hfound)
      have hselects := List.find?_some hfound
      exact ⟨rfl, .antiAffinity hp (.other hterm hdomain hselects)⟩
  · rw [hfar] at h
    cases h
    obtain ⟨term, hrepels, hfound⟩ := List.exists_of_findSome?_eq_some hfar
    obtain ⟨p, hp, rfl⟩ := Option.map_eq_some_iff.1 hfound
    obtain ⟨hterm, hdomain⟩ := mem_repellents.1 hrepels
    have hselects := List.find?_some hp
    exact ⟨rfl, .antiAffinity (List.mem_of_find?_eq_some hp) (.own hterm hdomain hselects)⟩

/-- **The obstacle that a judge finds is genuine.** -/
theorem genuine_of_judge {predicate : FitPredicate} (h : predicate.judge pod load = some obstacle) :
    obstacle.predicate = predicate ∧ obstacle.Genuine pod load := by
  cases predicate with
  | unbound =>
    obtain ⟨node, hbound, rfl⟩ := Option.map_eq_some_iff.1 h
    exact ⟨rfl, .staleBinding hbound⟩
  | schedulable =>
    simp only [FitPredicate.judge, schedulableNode, Option.ite_none_right_eq_some,
      Option.some.injEq] at h
    obtain ⟨hcordoned, rfl⟩ := h
    exact ⟨rfl, .nodeUnschedulable hcordoned⟩
  | knownRequests => exact genuine_of_knownRequests h
  | freeSlot =>
    simp only [FitPredicate.judge, freeSlot, Option.ite_none_right_eq_some, Option.some.injEq] at h
    obtain ⟨⟨hlimited, hfull⟩, rfl⟩ := h
    exact ⟨rfl, .tooManyPods hlimited hfull⟩
  | resources => exact genuine_of_enoughResources h
  | nodeSelector => exact genuine_of_nodeSelector h
  | nodeAffinity =>
    simp only [FitPredicate.judge, nodeAffinity, Option.ite_none_left_eq_some, Option.some.injEq,
      Bool.not_eq_true] at h
    obtain ⟨hrefused, rfl⟩ := h
    exact ⟨rfl, .nodeAffinityMismatch hrefused⟩
  | taints => exact genuine_of_tolerated h
  | hostPorts => exact genuine_of_freeHostPorts h
  | affinity => exact genuine_of_nearGroups h
  | antiAffinity => exact genuine_of_antiAffinity h

/-- **A genuine obstacle stands against its predicate.** -/
theorem Genuine.not_holds (h : obstacle.Genuine pod load) :
    ¬ obstacle.predicate.Holds pod load := by
  intro hholds
  cases h with
  | staleBinding hbound => exact absurd (hbound.symm.trans hholds) (by simp)
  | nodeUnschedulable hcordoned => exact absurd (hcordoned.symm.trans hholds) (by simp)
  | @unknownRequests earlier later p reason hpods _ hunknown =>
    have hp : p ∈ pod :: load.pods := by
      rw [hpods]
      exact List.mem_append_right earlier List.mem_cons_self
    exact absurd (hunknown.symm.trans (hholds p hp)) (by simp)
  | tooManyPods hlimited hfull => exact Nat.not_lt.2 hfull (hholds hlimited)
  | @insufficientResources kind hshort hlimited =>
    exact (hholds kind).elim (Nat.not_le.2 hshort) (Nat.ne_of_lt hlimited)
  | nodeSelectorMismatch hasked hlacks => exact hlacks (hholds _ _ hasked)
  | nodeAffinityMismatch hrefused => exact absurd (hrefused.symm.trans hholds) (by simp)
  | untoleratedTaint htaints _ hblocks huntolerated =>
    exact huntolerated (hholds _ (htaints ▸ List.mem_append_right _ List.mem_cons_self) hblocks)
  | hostPortConflict hwanted hp hused hconflict =>
    exact absurd (hconflict.symm.trans (hholds _ hp _ hused _ hwanted)) (by simp)
  | affinityUnsatisfied hterm hmisses => exact hholds _ hterm hmisses
  | unverifiableAffinity hterm hmisses => exact hholds _ hterm hmisses
  | antiAffinity hp hapart => exact hholds.1 _ hp _ hapart
  | unverifiableAntiAffinity _ hterm hbeyond => exact hholds.2 _ hterm hbeyond

end FitObstacle

/-- **A predicate fails exactly if a genuine obstacle belongs to it.** -/
theorem FitPredicate.not_holds_iff (predicate : FitPredicate) :
    ¬ predicate.Holds pod load ↔ ∃ obstacle : FitObstacle, obstacle.predicate = predicate ∧
      obstacle.Genuine pod load := by
  constructor
  · intro hfails
    obtain ⟨obstacle, hfound⟩ :=
      Option.ne_none_iff_exists'.1 fun hnone => hfails ((judge_eq_none_iff predicate).1 hnone)
    exact ⟨obstacle, FitObstacle.genuine_of_judge hfound⟩
  · rintro ⟨obstacle, rfl, hgenuine⟩
    exact hgenuine.not_holds

namespace Fit

/-- **An obstacle is reported exactly if the judge of its predicate finds it**, and all predicates
before hold. -/
theorem obstacle?_eq_some_iff : obstacle? pod load = some obstacle ↔
    obstacle.predicate.judge pod load = some obstacle ∧
      ∀ predicate ∈ obstacle.predicate.before, predicate.Holds pod load := by
  rw [FitPredicate.obstacle?_eq_findSome?]
  constructor
  · intro h
    obtain ⟨earlier, predicate, later, horder, hfound, hearlier⟩ := List.findSome?_eq_some_iff.1 h
    obtain ⟨rfl, -⟩ := FitObstacle.genuine_of_judge hfound
    refine ⟨hfound, fun q hq => q.judge_eq_none_iff.1 (hearlier q ?_)⟩
    rw [FitPredicate.before, horder, List.takeWhile_append, List.takeWhile_cons_of_neg (by simp)]
      at hq
    split at hq
    · rwa [List.append_nil] at hq
    · exact (List.takeWhile_sublist _).subset hq
  · rintro ⟨hfound, hbefore⟩
    obtain ⟨later, horder⟩ := obstacle.predicate.exists_inOrder_eq
    exact List.findSome?_eq_some_iff.2
      ⟨_, _, later, horder, hfound, fun q hq => q.judge_eq_none_iff.2 (hbefore q hq)⟩

/-- No obstacle is reported exactly if all predicates hold. -/
theorem obstacle?_eq_none_iff_holds :
    obstacle? pod load = none ↔ ∀ predicate : FitPredicate, predicate.Holds pod load := by
  rw [FitPredicate.obstacle?_eq_findSome?, List.findSome?_eq_none_iff]
  constructor
  · exact fun h predicate => predicate.judge_eq_none_iff.1 (h predicate predicate.mem_inOrder)
  · exact fun h predicate _ => predicate.judge_eq_none_iff.2 (h predicate)

/-- **The first predicate that fails is reported, with a genuine obstacle.** All predicates before
it hold. A pod fits exactly if all of them hold, and so exactly if there is no genuine obstacle: a
predicate fails only for one. -/
theorem obstacle?_genuine (pod : Pod) (load : NodeLoad) :
    (∀ obstacle, obstacle? pod load = some obstacle → obstacle.Genuine pod load ∧
      ∀ predicate ∈ obstacle.predicate.before, predicate.Holds pod load) ∧
    (obstacle? pod load = none ↔ ∀ predicate : FitPredicate, predicate.Holds pod load) ∧
    (obstacle? pod load = none ↔ ∀ obstacle : FitObstacle, ¬ obstacle.Genuine pod load) ∧
    ∀ predicate : FitPredicate, ¬ predicate.Holds pod load ↔
      ∃ obstacle : FitObstacle, obstacle.predicate = predicate ∧ obstacle.Genuine pod load := by
  refine ⟨fun obstacle h => ?_, obstacle?_eq_none_iff_holds, ?_, FitPredicate.not_holds_iff⟩
  · obtain ⟨hfound, hbefore⟩ := obstacle?_eq_some_iff.1 h
    exact ⟨(FitObstacle.genuine_of_judge hfound).2, hbefore⟩
  · rw [obstacle?_eq_none_iff_holds]
    constructor
    · exact fun h obstacle hgenuine => hgenuine.not_holds (h obstacle.predicate)
    · intro h predicate
      by_contra hfails
      obtain ⟨obstacle, -, hgenuine⟩ := predicate.not_holds_iff.1 hfails
      exact h obstacle hgenuine

end Fit

end SpotRebalance
