import SpotRebalance.Proofs.DrainPlan.FirstFit
import SpotRebalance.Proofs.Snapshot.Listing
import SpotRebalance.Rebalancer.Cycle

/-! # Which node is drained

A survey shows which node a cycle may drain: the first on-demand node in listing order that is
**drainable**, that is, whose pods may all be moved and have destinations
(`Survey.firstDrainable?_eq_some_iff`). With the usual policy the pods that move are those that
must, each has a controller, and no budget that covers one is exhausted
(`Relocation.podsToMove_eq_ok_iff`). -/

namespace SpotRebalance

/-! ## Pods that may be moved -/

section Relocation

variable {budgets : List DisruptionBudget} {pods moved : List Pod} {p : Pod}

/-- A budget that is not exhausted allows a disruption. -/
theorem DisruptionBudget.not_isExhausted_iff {b : DisruptionBudget} :
    ¬ b.isExhausted ↔ 1 ≤ b.disruptionsAllowed := by
  simp [isExhausted]

/-- **A pod may be evicted**: something would start it again, and every budget that covers it allows
a disruption. -/
structure Pod.Evictable (budgets : List DisruptionBudget) (p : Pod) : Prop where
  /-- A controller manages the pod. -/
  managed : p.controller?.isSome
  /-- Every budget that covers the pod allows a disruption. -/
  affordable : ∀ b ∈ budgets, b.covers p → 1 ≤ b.disruptionsAllowed

/-- A pod that nothing blocks may be evicted. -/
theorem Relocation.blocker?_eq_none_iff : blocker? budgets p = none ↔ p.Evictable budgets := by
  rw [blocker?]
  cases hcontroller : p.controller? with
  | none =>
    constructor
    · intro h
      simp at h
    · intro h
      simpa [hcontroller] using h.managed
  | some owner =>
    constructor
    · intro h
      -- no budget was found that covers the pod and is exhausted, so one that covers it is not
      refine ⟨by simp [hcontroller], fun b hb hcovers => ?_⟩
      have hnone := List.find?_eq_none.1 (Option.map_eq_none_iff.1 h) b hb
      exact DisruptionBudget.not_isExhausted_iff.1 fun hb => hnone (by simp [hcovers, hb])
    · intro h
      refine Option.map_eq_none_iff.2 (List.find?_eq_none.2 fun b hb hboth => ?_)
      obtain ⟨hcovers, hb'⟩ := Bool.and_eq_true_iff.1 hboth
      exact DisruptionBudget.not_isExhausted_iff.2 (h.affordable b hb hcovers) hb'

/-- **The pods that must move are all relocatable pods**, and each may be evicted. -/
theorem Relocation.podsToMove_eq_ok_iff :
    podsToMove pods budgets = .ok moved ↔
      moved = pods.filter Pod.isRelocatable ∧ ∀ p ∈ moved, p.Evictable budgets := by
  constructor
  · intro h
    rw [podsToMove] at h
    split at h
    · cases h
    · rename_i hnone
      cases h
      exact ⟨rfl, fun p hp => blocker?_eq_none_iff.1 (List.findSome?_eq_none_iff.1 hnone p hp)⟩
  · rintro ⟨rfl, hall⟩
    have hnone : (pods.filter Pod.isRelocatable).findSome? (blocker? budgets) = none :=
      List.findSome?_eq_none_iff.2 fun p hp => blocker?_eq_none_iff.2 (hall p hp)
    simp only [podsToMove, hnone]

/-- The pods that must move may do so if each of them may be evicted. -/
theorem Relocation.isOk_podsToMove_iff :
    (podsToMove pods budgets).isOk ↔ ∀ q ∈ pods, q.isRelocatable → q.Evictable budgets := by
  have hfilter : (∀ q ∈ pods, q.isRelocatable → q.Evictable budgets) ↔
      ∀ q ∈ pods.filter Pod.isRelocatable, q.Evictable budgets := by
    simp only [List.mem_filter, and_imp]
  rw [hfilter]
  constructor
  · intro hok
    cases hmoved : podsToMove pods budgets with
    | error blocker =>
      rw [hmoved] at hok
      cases hok
    | ok moved =>
      obtain ⟨rfl, hevictable⟩ := podsToMove_eq_ok_iff.1 hmoved
      exact hevictable
  · intro hevictable
    rw [podsToMove_eq_ok_iff.2 ⟨rfl, hevictable⟩]
    rfl

end Relocation

/-! ## Nodes that can be drained -/

/-- A node is drainable of the pods that the filter chooses, if there are any and a plan gives each
a destination. -/
theorem Policy.verdict_eq_drainable_iff {policy : Policy} {budgets : List DisruptionBudget}
    {spot : List NodeLoad} {pods moved : List Pod} {plan : DrainPlan} :
    policy.verdict budgets spot pods = .drainable moved plan ↔
      policy.filter pods budgets = .ok moved ∧ moved ≠ [] ∧
        DrainPlan.plan policy.judge spot moved = .ok plan := by
  rw [verdict]
  constructor
  · intro h
    split at h
    · cases h
    · cases h
    · rename_i hfilter
      split at h
      · rename_i hplan
        cases h
        exact ⟨hfilter, by simp, hplan⟩
      · cases h
  · rintro ⟨hfilter, hne, hplan⟩
    obtain ⟨pod, others, rfl⟩ := List.exists_cons_of_ne_nil hne
    simp only [hfilter, hplan]

namespace Survey

/-- **A load of a survey can be drained** of some pods. -/
def Drainable (survey : Survey) (policy : Policy) (load : NodeLoad) (moved : List Pod) : Prop :=
  ∃ plan, policy.verdict survey.budgets survey.snapshot.spot load.pods = .drainable moved plan

/-- **The node that is drained is the first drainable one** in listing order. -/
theorem firstDrainable?_eq_some_iff {survey : Survey} {policy : Policy} {node : Node}
    {moved : List Pod} :
    survey.firstDrainable? policy = some (node, moved) ↔
      ∃ before load after, survey.snapshot.onDemand = before ++ load :: after ∧ load.node = node ∧
        survey.Drainable policy load moved ∧ ∀ l ∈ before, ∀ pods,
          ¬ survey.Drainable policy l pods := by
  rw [firstDrainable?, List.findSome?_eq_some_iff]
  refine exists_congr fun before => exists_congr fun load => exists_congr fun after =>
    and_congr_right fun _ => ?_
  -- a load gives a result exactly if its verdict is that it is drainable
  rw [← and_assoc]
  refine and_congr ?_ (forall₂_congr fun l _ => ?_)
  · cases hverdict : policy.verdict survey.budgets survey.snapshot.spot load.pods
      <;> simp [Drainable, hverdict]
  · cases hverdict : policy.verdict survey.budgets survey.snapshot.spot l.pods
      <;> simp [Drainable, hverdict]

end Survey

end SpotRebalance
