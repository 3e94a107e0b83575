import Mathlib.Data.List.Forall2
import SpotRebalance.DrainPlan
import SpotRebalance.Proofs.Fit.Order

/-! # Plans and the order of pods

A plan for the same spot nodes with the same pods on them moves pods to the same places, whatever
the order in which the pods of each node were counted (`placements_rearranged`). One placement keeps
the two arrays alike (`placeFirst?_rearranged`), so the next pod finds them alike again. If there is
no plan, the same pod is the first that fits nowhere. -/

namespace SpotRebalance.DrainPlan

variable {loads others : List NodeLoad}

/-- **Two placements are alike**: on the same node, and they leave loads with the same pods. -/
def AlikePlaced (a b : String × List NodeLoad) : Prop :=
  a.1 = b.1 ∧ List.Forall₂ NodeLoad.Rearranged a.2 b.2

/-- **A pod is placed on the same node**, or on none, whatever the order of the pods on each. -/
theorem placeFirst?_rearranged (h : List.Forall₂ NodeLoad.Rearranged loads others) (pod : Pod) :
    Option.Rel AlikePlaced (placeFirst? Fit.obstacle? pod loads)
      (placeFirst? Fit.obstacle? pod others) := by
  induction h with
  | nil => exact .none
  | @cons load other rest restOther hload hrest ih =>
    rw [placeFirst?, placeFirst?, ← hload.accepts_eq pod]
    by_cases haccepts : Fit.accepts Fit.obstacle? pod load
    · rw [if_pos haccepts, if_pos haccepts, ← hload.name_eq]
      exact .some ⟨rfl, .cons (hload.add _) hrest⟩
    · rw [if_neg haccepts, if_neg haccepts]
      generalize placeFirst? Fit.obstacle? pod rest = placed,
        placeFirst? Fit.obstacle? pod restOther = placed' at ih
      -- the load that is passed over stays in front of whatever the placement leaves
      cases ih with
      | none => exact .none
      | some hplaced => exact .some ⟨hplaced.1, .cons hload hplaced.2⟩

/-- The placements of a plan are that of its first pod and those of the others on what that
leaves. -/
theorem map_placements_plan_cons (judge : FitJudge) (loads : List NodeLoad) (pod : Pod)
    (pods : List Pod) :
    (plan judge loads (pod :: pods)).map (·.placements) =
      match placeFirst? judge pod.unbound loads with
      | none => .error (.unplaceable pod.key)
      | some (node, left) =>
        ((plan judge left pods).map (·.placements)).map (⟨pod.key, node⟩ :: ·) := by
  rw [plan]
  cases placeFirst? judge pod.unbound loads with
  | none => rfl
  | some placed =>
    obtain ⟨node, left⟩ := placed
    cases hplan : plan judge left pods <;> simp only [hplan] <;> rfl

/-- **Plans have the same placements**, or fail for the same pod, whatever the order of the pods on
each node. -/
theorem placements_rearranged (h : List.Forall₂ NodeLoad.Rearranged loads others)
    (pods : List Pod) :
    (plan Fit.obstacle? loads pods).map (·.placements) =
      (plan Fit.obstacle? others pods).map (·.placements) := by
  induction pods generalizing loads others with
  | nil => rfl
  | cons pod pods ih =>
    have hplaced := placeFirst?_rearranged h pod.unbound
    rw [map_placements_plan_cons, map_placements_plan_cons]
    generalize placeFirst? Fit.obstacle? pod.unbound loads = placed,
      placeFirst? Fit.obstacle? pod.unbound others = placed' at hplaced
    cases hplaced with
    | none => rfl
    | @some a b halike =>
      -- the pod goes to the same node and leaves the arrays alike, so the other pods do too
      obtain ⟨hnode, hleft⟩ := halike
      simp only [hnode, ih hleft]

end SpotRebalance.DrainPlan
