import Mathlib.Data.List.Forall2
import SpotRebalance.DrainPlan

/-! # First fit, step by step

What one placement does, and what that says about a whole plan. A placement changes one load: the
first that the judge accepts gains the pod, bound to it, and all others stay
(`placeFirst?_eq_some`). So whatever holds between a load and itself, and is kept when an accepted
pod is added, holds between every load and its projection (`forall₂_projected`): the induction over
the pods is made here once. -/

namespace SpotRebalance.DrainPlan

variable {judge : FitJudge} {loads placed : List NodeLoad} {pod : Pod} {name : String}

/-- **A placement adds the pod to the first load that the judge accepts**, and changes nothing
else. -/
theorem placeFirst?_eq_some (h : placeFirst? judge pod loads = some (name, placed)) :
    ∃ before load after, loads = before ++ load :: after ∧
      (∀ l ∈ before, Fit.accepts judge pod l = false) ∧ Fit.accepts judge pod load ∧
      name = load.name ∧ placed = before ++ load.add (pod.boundTo load.name) :: after := by
  induction loads generalizing placed with
  | nil => simp [placeFirst?] at h
  | cons load rest ih =>
    rw [placeFirst?] at h
    split at h
    · rename_i haccepts
      obtain ⟨rfl, rfl⟩ := Prod.mk.inj (Option.some.inj h)
      exact ⟨[], load, rest, rfl, by simp, haccepts, rfl, rfl⟩
    · rename_i hrefused
      obtain ⟨⟨name', placed'⟩, hrest, hpair⟩ := Option.map_eq_some_iff.1 h
      obtain ⟨rfl, rfl⟩ := Prod.mk.inj hpair
      obtain ⟨before, target, after, rfl, hbefore, htarget, hname, rfl⟩ := ih hrest
      -- the load passed over joins those that the judge refused
      refine ⟨load :: before, target, after, rfl, ?_, htarget, hname, rfl⟩
      intro l hl
      rcases List.mem_cons.1 hl with rfl | hl
      · exact Bool.eq_false_iff.2 hrefused
      · exact hbefore l hl

/-- A plan for a list of pods is a placement of the first and a plan for the others on what that
leaves. -/
theorem plan_cons_eq_ok {pods : List Pod} {plan : DrainPlan}
    (h : DrainPlan.plan judge loads (pod :: pods) = .ok plan) :
    ∃ name placed rest, placeFirst? judge pod.unbound loads = some (name, placed) ∧
      DrainPlan.plan judge placed pods = .ok rest ∧
      plan = ⟨⟨pod.key, name⟩ :: rest.placements, rest.projected⟩ := by
  rw [DrainPlan.plan] at h
  split at h
  · cases h
  · rename_i name placed hplaced
    split at h
    · rename_i rest hrest
      cases h
      exact ⟨name, placed, rest, hplaced, hrest, rfl⟩
    · cases h

section Projection

variable {R : NodeLoad → NodeLoad → Prop}

/-- A relation that accepted pods keep is kept by a placement. -/
theorem forall₂_placeFirst? {start : List NodeLoad}
    (hadd : ∀ load now, R load now → Fit.accepts judge pod.unbound now →
      R load (now.add (pod.boundTo now.name)))
    (h : placeFirst? judge pod.unbound loads = some (name, placed))
    (hR : List.Forall₂ R start loads) :
    List.Forall₂ R start placed := by
  induction hR generalizing placed with
  | nil => simp [placeFirst?] at h
  | @cons load now start loads hhead htail ih =>
    rw [placeFirst?] at h
    split at h
    · -- only the load that takes the pod changes
      rename_i haccepts
      obtain ⟨-, rfl⟩ := Prod.mk.inj (Option.some.inj h)
      exact .cons (hadd load now hhead haccepts) htail
    · obtain ⟨⟨name', placed'⟩, hrest, hpair⟩ := Option.map_eq_some_iff.1 h
      obtain ⟨rfl, rfl⟩ := Prod.mk.inj hpair
      exact .cons hhead (ih hrest)

/-- **What accepted pods keep holds of every projection.** A relation that holds between each load
and itself, and that is kept when a pod of the plan is added to a load that the judge accepts for
it, holds between each load and what the plan makes of it. -/
theorem forall₂_projected {pods : List Pod} {plan : DrainPlan} (hrefl : ∀ load ∈ loads, R load load)
    (hadd : ∀ p ∈ pods, ∀ load now, R load now → Fit.accepts judge p.unbound now →
      R load (now.add (p.boundTo now.name)))
    (h : DrainPlan.plan judge loads pods = .ok plan) : List.Forall₂ R loads plan.projected := by
  have hstart : List.Forall₂ R loads loads := List.forall₂_same.2 hrefl
  -- the loads at the start stay fixed while those that the plan has reached vary
  suffices hrun : ∀ {pods reached plan}, (∀ p ∈ pods, ∀ load now, R load now →
      Fit.accepts judge p.unbound now → R load (now.add (p.boundTo now.name))) →
      List.Forall₂ R loads reached → DrainPlan.plan judge reached pods = .ok plan →
      List.Forall₂ R loads plan.projected from hrun hadd hstart h
  intro pods
  induction pods with
  | nil =>
    intro reached plan _ hreached hplan
    cases hplan
    exact hreached
  | cons pod pods ih =>
    intro reached plan hadd hreached hplan
    obtain ⟨name, placed, rest, hplaced, hrest, rfl⟩ := plan_cons_eq_ok hplan
    have hkept := forall₂_placeFirst? (hadd pod List.mem_cons_self) hplaced hreached
    have hothers := ih (fun p hp => hadd p (List.mem_cons_of_mem _ hp)) hkept hrest
    exact hothers

end Projection

/-! ## Placements -/

/-- A placement leaves the nodes as they are, and goes to one of them. -/
theorem placeFirst?_names (h : placeFirst? judge pod loads = some (name, placed)) :
    placed.map (·.name) = loads.map (·.name) ∧ name ∈ loads.map (·.name) := by
  obtain ⟨before, load, after, rfl, -, -, rfl, rfl⟩ := placeFirst?_eq_some h
  simp [NodeLoad.name]

/-- A plan has one placement for each pod, in pod order. -/
theorem placements_pods {pods : List Pod} {plan : DrainPlan}
    (h : DrainPlan.plan judge loads pods = .ok plan) :
    plan.placements.map (·.pod) = pods.map (·.key) := by
  induction pods generalizing loads plan with
  | nil =>
    cases h
    rfl
  | cons pod pods ih =>
    obtain ⟨name, placed, rest, -, hrest, rfl⟩ := plan_cons_eq_ok h
    rw [List.map_cons, List.map_cons, ih hrest]

/-- Every destination of a plan is one of the nodes planned on. -/
theorem placement_node_mem {pods : List Pod} {plan : DrainPlan}
    (h : DrainPlan.plan judge loads pods = .ok plan) {placement : Placement}
    (hplacement : placement ∈ plan.placements) : placement.node ∈ loads.map (·.name) := by
  induction pods generalizing loads plan with
  | nil =>
    cases h
    cases hplacement
  | cons pod pods ih =>
    obtain ⟨name, placed, rest, hplaced, hrest, rfl⟩ := plan_cons_eq_ok h
    obtain ⟨hnames, hname⟩ := placeFirst?_names hplaced
    rcases List.mem_cons.1 hplacement with rfl | hplacement
    · exact hname
    · exact hnames ▸ ih hrest hplacement

end SpotRebalance.DrainPlan
