import Mathlib.Data.List.Nodup
import SpotRebalance.Proofs.DrainPlan.FirstFit
import SpotRebalance.Proofs.Fit.Conditions

/-! # Plans and unknown demand

The demand of a pod is **unknown** if its requests could not be read. Such a pod fits no node, and
no pod fits beside it. So there is no plan for it (`plan_ne_ok_of_unknown`), and a plan for other
pods leaves the node that it runs on as it is (`forall₂_eq_of_unknown`,
`placement_ne_of_unknown`). -/

namespace SpotRebalance

/-- The demand of a pod is unknown. -/
def Pod.Unknown (pod : Pod) : Prop := pod.requestError ≠ none

/-- A pod of unknown demand is counted on a node. -/
def NodeLoad.HoldsUnknown (load : NodeLoad) : Prop := ∃ pod ∈ load.pods, pod.Unknown

/-- **A pod of unknown demand fits no node.** -/
theorem Fit.not_accepts_of_unknown {pod : Pod} (h : pod.Unknown) (load : NodeLoad) :
    ¬ accepts obstacle? pod load := fun haccepts => h (accepts_obstacle?_iff.1 haccepts).known

/-- **No pod fits beside one of unknown demand.** -/
theorem Fit.not_accepts_of_holdsUnknown {load : NodeLoad} (h : load.HoldsUnknown) (pod : Pod) :
    ¬ accepts obstacle? pod load := by
  obtain ⟨other, hother, hunknown⟩ := h
  exact fun haccepts => hunknown ((accepts_obstacle?_iff.1 haccepts).known_others other hother)

namespace DrainPlan

variable {loads : List NodeLoad} {pods : List Pod} {plan : DrainPlan}

/-- **There is no plan for a pod of unknown demand**, whatever is to move with it. -/
theorem plan_ne_ok_of_unknown {pod : Pod} (hpod : pod ∈ pods) (hunknown : pod.Unknown) :
    DrainPlan.plan Fit.obstacle? loads pods ≠ .ok plan := by
  induction pods generalizing loads plan with
  | nil => cases hpod
  | cons first pods ih =>
    intro hplan
    obtain ⟨name, placed, rest, hplaced, hrest, -⟩ := plan_cons_eq_ok hplan
    rcases List.mem_cons.1 hpod with rfl | hpod
    · obtain ⟨_, load, _, _, _, haccepts, -⟩ := placeFirst?_eq_some hplaced
      have hunbound : pod.unbound.Unknown := hunknown
      exact Fit.not_accepts_of_unknown hunbound load haccepts
    · exact ih hpod hrest

/-- **A plan leaves every node alone that holds a pod of unknown demand.** -/
theorem forall₂_eq_of_unknown (h : DrainPlan.plan Fit.obstacle? loads pods = .ok plan) :
    List.Forall₂ (fun load now => load.HoldsUnknown → now = load) loads plan.projected := by
  refine forall₂_projected (fun load _ _ => rfl) (fun pod _ load now hkept haccepts hholds => ?_) h
  -- up to here the load is as it was, so it does not take the pod
  obtain rfl := hkept hholds
  exact absurd haccepts (Fit.not_accepts_of_holdsUnknown hholds _)

/-- **A plan moves no pod to a node that holds one of unknown demand**, if no two nodes have the
same name. -/
theorem placement_ne_of_unknown (hdistinct : (loads.map (·.name)).Nodup) {load : NodeLoad}
    (hload : load ∈ loads) (hholds : load.HoldsUnknown)
    (h : DrainPlan.plan Fit.obstacle? loads pods = .ok plan) :
    ∀ placement ∈ plan.placements, placement.node ≠ load.name := by
  induction pods generalizing loads plan with
  | nil =>
    cases h
    simp
  | cons pod pods ih =>
    obtain ⟨name, placed, rest, hplaced, hrest, rfl⟩ := plan_cons_eq_ok h
    have hnames := (placeFirst?_names hplaced).1
    obtain ⟨before, target, after, rfl, -, haccepts, rfl, rfl⟩ := placeFirst?_eq_some hplaced
    have htarget : load ≠ target := by
      rintro rfl
      exact Fit.not_accepts_of_holdsUnknown hholds _ haccepts
    have hname : target.name ≠ load.name := by
      intro heq
      exact htarget (List.inj_on_of_nodup_map hdistinct hload (by simp) heq.symm)
    -- the load was not the target, so the other pods are planned with it still there
    have hkept : load ∈ before ++ target.add (pod.unbound.boundTo target.name) :: after := by
      simp only [List.mem_append, List.mem_cons, htarget, false_or] at hload ⊢
      exact hload.imp_right Or.inr
    exact List.forall_mem_cons.2 ⟨hname, ih (hnames ▸ hdistinct) hkept hrest⟩

end DrainPlan

end SpotRebalance
