import SpotRebalance.Proofs.DrainPlan.Greedy

/-! # Plans compose

A plan for some pods can be made in parts. The pods of the second part are planned on what the first
part projects, and the two plans together are the plan for all (`plan_append`). So a plan for the
first pods that fails fails the same way whatever pods follow.

Loads can be added at the end as well. The scan of a placement stops at the first load that accepts
the pod, so it does not reach loads behind that one (`placeFirst?_append`), and the same holds pod
after pod of every plan (`plan_beside`). Loads added in front could take pods away from the others,
so the end is the place for new ones. -/

namespace SpotRebalance.DrainPlan

variable {judge : FitJudge} {loads placed extra : List NodeLoad} {pod : Pod} {pods : List Pod}
  {name : String}

/-- **One plan after another**: the placements of both, and the loads as the second one leaves
them. -/
def followedBy (first second : DrainPlan) : DrainPlan :=
  ⟨first.placements ++ second.placements, second.projected⟩

/-- **A plan beside more loads**: the same placements, and behind the projected loads those that no
pod went to. -/
def beside (plan : DrainPlan) (extra : List NodeLoad) : DrainPlan :=
  ⟨plan.placements, plan.projected ++ extra⟩

/-! ## More pods -/

/-- A plan for one more pod in front: its placement, and then a plan for the others on what that
leaves. -/
theorem plan_cons_of_placed (h : placeFirst? judge pod.unbound loads = some (name, placed)) :
    DrainPlan.plan judge loads (pod :: pods) =
      (DrainPlan.plan judge placed pods).map fun rest =>
        ⟨⟨pod.key, name⟩ :: rest.placements, rest.projected⟩ := by
  simp only [DrainPlan.plan, h]
  cases DrainPlan.plan judge placed pods <;> rfl

/-- **Pods can be planned in two parts**, the second part on what the plan for the first one
projects. -/
theorem plan_append (loads : List NodeLoad) (first second : List Pod) :
    DrainPlan.plan judge loads (first ++ second) =
      (DrainPlan.plan judge loads first).bind fun p =>
        (DrainPlan.plan judge p.projected second).map p.followedBy := by
  induction first generalizing loads with
  | nil =>
    change DrainPlan.plan judge loads second =
      (DrainPlan.plan judge loads second).map (followedBy ⟨[], loads⟩)
    cases DrainPlan.plan judge loads second <;> rfl
  | cons pod first ih =>
    rw [List.cons_append]
    cases hplaced : placeFirst? judge pod.unbound loads with
    | none => simp only [DrainPlan.plan, hplaced, Except.bind]
    | some result =>
      obtain ⟨name, placed⟩ := result
      rw [plan_cons_of_placed hplaced, plan_cons_of_placed hplaced, ih placed]
      cases DrainPlan.plan judge placed first with
      | error e => rfl
      | ok p =>
        -- the placement in front of the first part is in front of the whole
        change ((DrainPlan.plan judge p.projected second).map p.followedBy).map _ =
          (DrainPlan.plan judge p.projected second).map _
        cases DrainPlan.plan judge p.projected second <;> rfl

/-- A plan that fails names one of its pods. -/
theorem plan_eq_error {e : RebalanceError} (h : DrainPlan.plan judge loads pods = .error e) :
    ∃ pod ∈ pods, e = .unplaceable pod.key := by
  obtain ⟨moves, pod, later, hpods, -, -, rfl⟩ := plan_eq_error_iff.1 h
  exact ⟨pod, by rw [hpods]; exact List.mem_append_right _ List.mem_cons_self, rfl⟩

/-! ## More loads -/

/-- A placement does not look at loads behind the one that it goes to. -/
theorem placeFirst?_append (h : placeFirst? judge pod loads = some (name, placed))
    (extra : List NodeLoad) :
    placeFirst? judge pod (loads ++ extra) = some (name, placed ++ extra) := by
  induction loads generalizing placed with
  | nil => cases h
  | cons load rest ih =>
    rw [placeFirst?] at h
    rw [List.cons_append, placeFirst?]
    split at h
    · rename_i haccepts
      obtain ⟨rfl, rfl⟩ := Prod.mk.inj (Option.some.inj h)
      rw [if_pos haccepts, List.cons_append]
    · rename_i hrefused
      obtain ⟨⟨name', placed'⟩, hrest, hpair⟩ := Option.map_eq_some_iff.1 h
      obtain ⟨rfl, rfl⟩ := Prod.mk.inj hpair
      rw [if_neg hrefused, ih hrest, Option.map_some, List.cons_append]

/-- **Loads added at the end leave a plan as it is**: no pod goes to them. -/
theorem plan_beside {plan : DrainPlan} (h : DrainPlan.plan judge loads pods = .ok plan)
    (extra : List NodeLoad) :
    DrainPlan.plan judge (loads ++ extra) pods = .ok (plan.beside extra) := by
  induction pods generalizing loads plan with
  | nil =>
    cases h
    rfl
  | cons pod pods ih =>
    obtain ⟨name, placed, rest, hplaced, hrest, rfl⟩ := plan_cons_eq_ok h
    rw [plan_cons_of_placed (placeFirst?_append hplaced extra), ih hrest]
    rfl

/-! ## Plans in parts -/

/-- **Plans compose**, whatever the judge, the loads and the pods.

There is a plan for two lists of pods, one after the other, exactly if there is one for the first
list and, on what it projects, one for the second; the plan is then the one followed by the other.
If there is none for the first list, then a pod of that list is named, and the same pod whatever
list follows; if there is one, then what fails is the second list on the projected loads. And a plan
stays what it is when loads are added at the end. -/
theorem plan_composes (judge : FitJudge) (loads extra : List NodeLoad) (first second : List Pod) :
    (∀ plan, DrainPlan.plan judge loads (first ++ second) = .ok plan ↔
        ∃ p q, DrainPlan.plan judge loads first = .ok p ∧
          DrainPlan.plan judge p.projected second = .ok q ∧
          plan = p.followedBy q) ∧
      (∀ e, DrainPlan.plan judge loads first = .error e →
        (∃ pod ∈ first, e = .unplaceable pod.key) ∧
          ∀ later, DrainPlan.plan judge loads (first ++ later) = .error e) ∧
      ∀ p, DrainPlan.plan judge loads first = .ok p →
        (∀ e, DrainPlan.plan judge loads (first ++ second) = .error e ↔
          DrainPlan.plan judge p.projected second = .error e) ∧
          DrainPlan.plan judge (loads ++ extra) first = .ok (p.beside extra) := by
  refine ⟨fun plan => ⟨fun h => ?_, ?_⟩, fun e he => ⟨plan_eq_error he, fun later => ?_⟩,
    fun p hp => ⟨fun e => ?_, plan_beside hp extra⟩⟩
  · rw [plan_append] at h
    cases hfirst : DrainPlan.plan judge loads first with
    | error e => rw [hfirst] at h; cases h
    | ok p =>
      rw [hfirst] at h
      cases hsecond : DrainPlan.plan judge p.projected second with
      | error e => simp only [Except.bind, hsecond] at h; cases h
      | ok q =>
        simp only [Except.bind, hsecond] at h
        cases h
        exact ⟨p, q, rfl, hsecond, rfl⟩
  · rintro ⟨p, q, hfirst, hsecond, rfl⟩
    rw [plan_append, hfirst, Except.bind, hsecond, Except.map]
  · rw [plan_append, he, Except.bind]
  · rw [plan_append, hp, Except.bind]
    cases DrainPlan.plan judge p.projected second <;> simp [Except.map]

end SpotRebalance.DrainPlan
