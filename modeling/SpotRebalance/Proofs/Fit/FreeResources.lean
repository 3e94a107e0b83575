import SpotRebalance.Proofs.Fit.Obstacles

/-! # What is refused and what is free

Whether the resources of a node are enough is judged by a sum: what the pods there and the incoming
one request must stay within what the node can allocate. A refusal is reported with a difference:
what the incoming pod requests, and what the node can allocate beyond what the pods there request
(`NodeLoad.free`). Resource by resource the two say the same, but for two cases. Of a resource that
is **overcommitted** nothing is free, so a pod that requests nothing of it fits within what is free,
and yet there is not enough (`not_enoughOf_iff`). And if the node can allocate the greatest amount
of a resource, a request that takes the sum beyond goes **uncounted**: there is enough although it
does not fit within what is free (`not_freeOf_iff`).

So the refusals of a node are explained by the numbers that they report unless it is overcommitted
(`refusalExplained_iff`). -/

namespace SpotRebalance

namespace Fit

variable {pod : Pod} {load : NodeLoad}

/-! ## One resource alone -/

/-- **A resource is overcommitted**: the pods on the node request more of it than the node can
allocate. -/
def Overcommitted (load : NodeLoad) (kind : ResourceKind) : Prop :=
  (load.node.allocatable.amount kind).val < (load.requested.amount kind).val

/-- **A request goes uncounted**: the node can allocate the greatest amount of a resource, and with
the request the sum is beyond that. -/
def Uncounted (pod : Pod) (load : NodeLoad) (kind : ResourceKind) : Prop :=
  (load.node.allocatable.amount kind).val = Amount.greatest ∧
    Amount.greatest < (load.requested.amount kind).val + (pod.requests.amount kind).val

/-- **Enough of a resource**: what is requested together, as far as it is counted, stays within what
can be allocated. -/
def EnoughOf (pod : Pod) (load : NodeLoad) (kind : ResourceKind) : Prop :=
  min ((load.requested.amount kind).val + (pod.requests.amount kind).val) Amount.greatest ≤
    (load.node.allocatable.amount kind).val

/-- **A resource is free** to the extent that a pod requests it. -/
def FreeOf (pod : Pod) (load : NodeLoad) (kind : ResourceKind) : Prop :=
  (pod.requests.amount kind).val ≤ (load.node.allocatable.amount kind).val -
    (load.requested.amount kind).val

/-- The resources of a node are enough if there is enough of each. -/
theorem resources_holds_iff :
    FitPredicate.resources.Holds pod load ↔ ∀ kind, EnoughOf pod load kind := by
  rw [← FitPredicate.judge_eq_none_iff, FitPredicate.judge, enoughResources]
  simp only [ite_eq_left_iff, reduceCtorEq, imp_false, not_not, Resources.fitsWithin_iff_amounts,
    Resources.val_amount_add, EnoughOf]

/-- Requests fit within what is free if each resource is. -/
theorem fitsWithin_free_iff : pod.requests.fitsWithin load.free ↔ ∀ kind, FreeOf pod load kind := by
  simp only [NodeLoad.free, Resources.fitsWithin_iff_amounts, Resources.val_amount_sub, FreeOf]

/-- If what is requested of a resource is free, there is enough unless it is overcommitted; nothing
is requested then. -/
theorem not_enoughOf_iff {kind : ResourceKind} (h : FreeOf pod load kind) :
    ¬ EnoughOf pod load kind ↔ Overcommitted load kind := by
  have hrequested := (load.requested.amount kind).val_le_greatest
  have hallocatable := (load.node.allocatable.amount kind).val_le_greatest
  simp only [EnoughOf, FreeOf, Overcommitted] at *
  omega

/-- If there is enough of a resource, what is requested is free unless it goes uncounted. -/
theorem not_freeOf_iff {kind : ResourceKind} (h : EnoughOf pod load kind) :
    ¬ FreeOf pod load kind ↔ Uncounted pod load kind := by
  have hrequested := (load.requested.amount kind).val_le_greatest
  have hallocatable := (load.node.allocatable.amount kind).val_le_greatest
  simp only [EnoughOf, FreeOf, Uncounted] at *
  omega

/-! ## All resources -/

/-- **A pod is refused although there is room**: it fits within what is free, and some resource is
overcommitted. -/
def RefusedWithRoom (pod : Pod) (load : NodeLoad) : Prop :=
  pod.requests.fitsWithin load.free ∧ ∃ kind, Overcommitted load kind

/-- **A pod is taken although there is no room**: there is enough of each resource, and a request
goes uncounted. -/
def TakenWithoutRoom (pod : Pod) (load : NodeLoad) : Prop :=
  FitPredicate.resources.Holds pod load ∧ ∃ kind, Uncounted pod load kind

/-- Resources are not enough although the pod fits within what is free, exactly if it is refused
with room. -/
theorem refusedWithRoom_iff :
    RefusedWithRoom pod load ↔ ¬ FitPredicate.resources.Holds pod load ∧
      pod.requests.fitsWithin load.free := by
  rw [RefusedWithRoom, and_comm, resources_holds_iff, not_forall, fitsWithin_free_iff]
  refine and_congr_left fun hfree => exists_congr fun kind => ?_
  exact (not_enoughOf_iff (hfree kind)).symm

/-- Resources are enough although the pod does not fit within what is free, exactly if it is taken
without room. -/
theorem takenWithoutRoom_iff :
    TakenWithoutRoom pod load ↔ FitPredicate.resources.Holds pod load ∧
      ¬ pod.requests.fitsWithin load.free := by
  rw [TakenWithoutRoom, resources_holds_iff, fitsWithin_free_iff, not_forall]
  refine and_congr_right fun henough => exists_congr fun kind => ?_
  exact (not_freeOf_iff (henough kind)).symm

/-! ## Reports -/

/-- **The resources of a node are judged**: all predicates that are tried before hold. -/
def ResourcesJudged (pod : Pod) (load : NodeLoad) : Prop :=
  ∀ predicate ∈ FitPredicate.resources.before, predicate.Holds pod load

/-- **A refusal for want of resources is explained**: what it reports as requested does not fit
within what it reports as free. -/
def RefusalExplained (pod : Pod) (load : NodeLoad) : Prop :=
  ∀ requested free, obstacle? pod load = some (.insufficientResources requested free) →
    ¬ requested.fitsWithin free

/-- **Resources are judged by what is free**: a pod is refused for want of them exactly if its
requests do not fit within what is free on the node. -/
def JudgedByFree (pod : Pod) (load : NodeLoad) : Prop :=
  ResourcesJudged pod load →
    ((∃ requested free, obstacle? pod load = some (.insufficientResources requested free)) ↔
      ¬ pod.requests.fitsWithin load.free)

/-- **When resources are called insufficient**, and what is reported then. -/
theorem obstacle?_eq_insufficientResources_iff {requested free : Resources} :
    obstacle? pod load = some (.insufficientResources requested free) ↔
      ResourcesJudged pod load ∧ ¬ FitPredicate.resources.Holds pod load ∧
        requested = pod.requests ∧ free = load.free := by
  rw [obstacle?_eq_some_iff, and_comm, ← FitPredicate.judge_eq_none_iff]
  refine and_congr_right' ?_
  change enoughResources pod load = _ ↔ ¬ enoughResources pod load = none ∧ _
  rw [enoughResources]
  split <;> simp [eq_comm]

/-- **When refusals are explained by the numbers they report.** A refusal for want of resources is
explained unless the pod is refused with room, and resources are judged by what is free unless a pod
is refused with room or taken without. -/
theorem refusalExplained_iff (pod : Pod) (load : NodeLoad) :
    (RefusalExplained pod load ↔ ¬ (ResourcesJudged pod load ∧ RefusedWithRoom pod load)) ∧
      (JudgedByFree pod load ↔
        ¬ (ResourcesJudged pod load ∧ (RefusedWithRoom pod load ∨ TakenWithoutRoom pod load))) := by
  rw [refusedWithRoom_iff, takenWithoutRoom_iff, RefusalExplained, JudgedByFree]
  simp only [obstacle?_eq_insufficientResources_iff]
  constructor
  · constructor
    · rintro hexplained ⟨hjudged, hshort, hfits⟩
      exact hexplained _ _ ⟨hjudged, hshort, rfl, rfl⟩ hfits
    · rintro hroom _ _ ⟨hjudged, hshort, rfl, rfl⟩ hfits
      exact hroom ⟨hjudged, hshort, hfits⟩
  · rw [not_and]
    refine imp_congr_right fun hjudged => ?_
    have hrefused : (∃ requested free, ResourcesJudged pod load ∧
        ¬ FitPredicate.resources.Holds pod load ∧
        requested = pod.requests ∧ free = load.free) ↔ ¬ FitPredicate.resources.Holds pod load := by
      simp [hjudged]
    rw [hrefused]
    tauto

/-- A node with a gibibyte of memory, on which a cache takes two. -/
def crowdedNode : NodeLoad where
  node :=
    { name := "spot-1",
      allocatable := { cpuMillis := 1000, memoryBytes := 1073741824, pods := 10 } }
  pods :=
    [{ ns := "default", name := "cache", nodeName := some "spot-1",
       requests := { memoryBytes := 2147483648 } }]

/-- A pod that requests a tenth of a core, and no memory. -/
def frugalPod : Pod where
  ns := "default"
  name := "web"
  requests := { cpuMillis := 100 }

/-- **Not every refusal is explained**: on a node that is short of memory a pod is refused that
requests none, and it would fit within what is reported as free. -/
theorem not_refusalExplained_frugal :
    ResourcesJudged frugalPod crowdedNode ∧ ¬ RefusalExplained frugalPod crowdedNode ∧
      ¬ JudgedByFree frugalPod crowdedNode := by
  have hreported : obstacle? frugalPod crowdedNode =
      some (.insufficientResources frugalPod.requests crowdedNode.free) := by
    decide +kernel
  have hfits : frugalPod.requests.fitsWithin crowdedNode.free := by decide +kernel
  have hjudged : ResourcesJudged frugalPod crowdedNode :=
    (obstacle?_eq_insufficientResources_iff.1 hreported).1
  exact ⟨hjudged, fun hexplained => hexplained _ _ hreported hfits, fun hfree =>
    (hfree hjudged).1 ⟨_, _, hreported⟩ hfits⟩

end Fit

end SpotRebalance
