import SpotRebalance.Proofs.Fit.Conditions
import SpotRebalance.Proofs.Resources.Amounts

/-! # Resources are judged by exact sums

What the pods of a node request together is added up in 64-bit words that stop at the greatest
amount. As long as a node can allocate less than that of every resource, a sum that was cut off does
not fit, and neither does the exact sum. So whether the resources are enough is decided by the exact
sums (`enoughResources_iff_sumsFit`). Only of a resource that the node can allocate the greatest
amount of, any number of pods is taken (`enoughResources_eq_none_iff_totals`). -/

namespace SpotRebalance.Fit

variable {pod : Pod} {load : NodeLoad}

/-- The exact sum of what the pods on a node and one more pod request of a resource. -/
def total (pod : Pod) (load : NodeLoad) (kind : ResourceKind) : ℕ :=
  (load.pods.map fun p => (p.requests.amount kind).val).sum + (pod.requests.amount kind).val

/-- The saturating sum is the exact one, cut off at the greatest amount. -/
theorem val_amount_sumRequests (pod : Pod) (load : NodeLoad) (kind : ResourceKind) :
    ((NodeLoad.sumRequests (load.pods ++ [pod])).amount kind).val =
      min (total pod load kind) Amount.greatest := by
  have hsum : NodeLoad.sumRequests (load.pods ++ [pod]) =
      Resources.sumOf (·.requests) (load.pods ++ [pod]) := rfl
  rw [hsum, Resources.val_amount_sumOf, List.map_append, List.sum_append, List.map_singleton,
    List.sum_singleton, total]

/-- **When the resources of a node are enough**: of every resource the exact sum stays within what
the node can allocate, or the node can allocate the greatest amount of it. -/
theorem enoughResources_eq_none_iff_totals :
    enoughResources pod load = none ↔
      ∀ kind, total pod load kind ≤ (load.node.allocatable.amount kind).val ∨
      (load.node.allocatable.amount kind).val = Amount.greatest := by
  rw [enoughResources_eq_none_iff, Resources.fitsWithin_iff_amounts]
  refine forall_congr' fun kind => ?_
  have hle := (load.node.allocatable.amount kind).val_le_greatest
  rw [val_amount_sumRequests]
  omega

/-- **The exact sums fit a node**: those of processor time, of memory and of every resource that
some pod names. -/
structure SumsFit (pod : Pod) (load : NodeLoad) : Prop where
  /-- The processor time that all pods request together. -/
  cpu : (load.pods.map fun p => p.requests.cpuMillis.val).sum + pod.requests.cpuMillis.val ≤
    load.node.allocatable.cpuMillis.val
  /-- The memory that all pods request together. -/
  memory : (load.pods.map fun p => p.requests.memoryBytes.val).sum + pod.requests.memoryBytes.val ≤
    load.node.allocatable.memoryBytes.val
  /-- What all pods request together of a resource that one of them names. A resource that the node
  does not list counts as zero. -/
  named : ∀ name, (∃ p ∈ pod :: load.pods, p.requests.scalars.contains name) →
    (load.pods.map fun p => (p.requests.scalar name).val).sum + (pod.requests.scalar name).val ≤
      (load.node.allocatable.scalar name).val

/-- Nothing is requested of a resource that no pod names. -/
theorem total_named_eq_zero {name : String}
    (h : ¬ ∃ p ∈ pod :: load.pods, p.requests.scalars.contains name) :
    total pod load (.named name) = 0 := by
  have hzero : ∀ p ∈ pod :: load.pods, (p.requests.scalar name).val = 0 := by
    intro p hp
    have hnone : p.requests.scalars.get? name = none := by
      rw [← Option.not_isSome_iff_eq_none]
      exact fun hsome => h ⟨p, hp, hsome⟩
    rw [Resources.scalar, hnone]
    rfl
  have hpods : (load.pods.map fun p => (p.requests.scalar name).val).sum = 0 := by
    rw [List.sum_eq_zero_iff_forall_eq_nat]
    intro n hn
    obtain ⟨p, hp, rfl⟩ := List.mem_map.1 hn
    exact hzero p (List.mem_cons_of_mem _ hp)
  have hpod := hzero pod List.mem_cons_self
  simp only [total, Resources.amount]
  omega

/-- The exact sums fit exactly if they do of every resource. -/
theorem sumsFit_iff_totals :
    SumsFit pod load ↔ ∀ kind, total pod load kind ≤ (load.node.allocatable.amount kind).val := by
  constructor
  · rintro ⟨hcpu, hmemory, hnamed⟩ kind
    cases kind with
    | cpu => exact hcpu
    | memory => exact hmemory
    | named name =>
      by_cases hmentioned : ∃ p ∈ pod :: load.pods, p.requests.scalars.contains name
      · exact hnamed name hmentioned
      · rw [total_named_eq_zero hmentioned]
        exact Nat.zero_le _
  · intro h
    exact ⟨h .cpu, h .memory, fun name _ => h (.named name)⟩

/-- **Whether the resources of a node are enough is decided by the exact sums**, if the node can
allocate less than the greatest amount of each. -/
theorem enoughResources_iff_sumsFit (pod : Pod) (load : NodeLoad)
    (hbelow : ∀ kind, (load.node.allocatable.amount kind).val < Amount.greatest) :
    enoughResources pod load = none ↔ SumsFit pod load := by
  rw [enoughResources_eq_none_iff_totals, sumsFit_iff_totals]
  refine forall_congr' fun kind => ?_
  have hlt := hbelow kind
  omega

/-- A pod that requests an amount of processor time and one graphics processor. -/
def trainer (cpu : Amount) : Pod where
  ns := "default"
  name := "trainer"
  requests := { cpuMillis := cpu, scalars := .ofList [("nvidia.com/gpu", 1)] }

/-- A node with some processor time, and no graphics processor. -/
def plainWorker : Node where
  name := "worker"
  allocatable := { cpuMillis := 4000 }

/-- Two pods that together request more than can be counted do not fit, by the exact sums. -/
theorem enoughResources_iff_sumsFit_trainers :
    (∀ kind, (plainWorker.allocatable.amount kind).val < Amount.greatest) ∧
      (enoughResources (trainer 1000) ⟨plainWorker, [trainer (.ofNat Amount.greatest)]⟩ = none ↔
        SumsFit (trainer 1000) ⟨plainWorker, [trainer (.ofNat Amount.greatest)]⟩) ∧
      ¬ SumsFit (trainer 1000) ⟨plainWorker, [trainer (.ofNat Amount.greatest)]⟩ := by
  have hbelow : ∀ kind, (plainWorker.allocatable.amount kind).val < Amount.greatest := by
    intro kind
    cases kind with
    | cpu => decide
    | memory => decide
    | named name => exact Nat.lt_of_le_of_lt (Nat.le_refl 0) (by decide)
  have hiff :=
    enoughResources_iff_sumsFit (trainer 1000)
      ⟨plainWorker, [trainer (.ofNat Amount.greatest)]⟩ hbelow
  exact ⟨hbelow, hiff, fun hfit => absurd hfit.cpu (by decide)⟩

end SpotRebalance.Fit
