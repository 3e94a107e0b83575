import SpotRebalance.Proofs.DrainPlan.FirstFit

/-! # Plans are greedy

A plan is made by one recursion over the pods and one over the loads. This module says what comes
out of them without either. A **move** sends a pod to a place, which is the index of a load. After
some moves every load holds the pods that it held before, and then those that were sent to its
place, in the order of the moves (`arranged`). Moves are **greedy** if each one goes to the first
place that accepts the pod after the moves before it (`Greedy`).

One placement is one greedy move (`placeFirst?_eq_some_iff`), and moves can be made one after the
other (`arranged_append`). So a plan is exactly what greedy moves of all pods come to, and there is
none exactly if greedy moves lead to a pod that no load accepts (`plan_greedy`). Nothing is asked of
names: places tell loads apart whose nodes are called the same, and moves tell pods apart that have
the same key. -/

namespace SpotRebalance.DrainPlan

/-! ## Moves -/

/-- A pod and the place of the load that it goes to. -/
structure Move where
  /-- The pod. -/
  pod : Pod
  /-- The index of the load. -/
  place : Nat

variable {judge : FitJudge} {loads : List NodeLoad} {moves : List Move} {pod : Pod}
  {pods : List Pod}

/-- The pods that moves bring to a place, bound to the node there and otherwise as they are. -/
def arrivals (moves : List Move) (place : Nat) (name : String) : List Pod :=
  (moves.filter fun m => m.place == place).map fun m => { m.pod with nodeName := some name }

/-- **The loads after some moves**: on each one the arrivals follow the pods that were there. -/
def arranged (loads : List NodeLoad) (moves : List Move) : List NodeLoad :=
  loads.mapIdx fun place load => { load with pods := load.pods ++ arrivals moves place load.name }

theorem arranged_nil (loads : List NodeLoad) : arranged loads [] = loads := by
  refine List.ext_getElem? fun place => ?_
  rw [arranged, List.getElem?_mapIdx]
  cases loads[place]? with
  | none => rfl
  | some load => simp [arrivals]

/-- **Moves can be made one after the other.** -/
theorem arranged_append (loads : List NodeLoad) (first second : List Move) :
    arranged loads (first ++ second) = arranged (arranged loads first) second := by
  refine List.ext_getElem? fun place => ?_
  simp only [arranged, List.getElem?_mapIdx, Option.map_map]
  refine congrArg (Option.map · _) (funext fun load => ?_)
  simp [arrivals, NodeLoad.name]

/-- A first move leaves the loads on which the others are made. -/
theorem arranged_cons (loads : List NodeLoad) (m : Move) (moves : List Move) :
    arranged loads (m :: moves) = arranged (arranged loads [m]) moves :=
  arranged_append loads [m] moves

/-- Moves leave the nodes where they are. -/
theorem name_arranged (loads : List NodeLoad) (moves : List Move) (place : Nat) :
    (arranged loads moves)[place]?.map (·.name) = loads[place]?.map (·.name) := by
  rw [arranged, List.getElem?_mapIdx, Option.map_map]
  rfl

/-- A single move adds its pod to one load. -/
theorem arranged_singleton (before : List NodeLoad) (load : NodeLoad) (after : List NodeLoad)
    (pod : Pod) :
    arranged (before ++ load :: after) [⟨pod, before.length⟩] =
      before ++ load.add (pod.boundTo load.name) :: after := by
  have hstay (place : Nat) (other : NodeLoad) (hplace : place ≠ before.length) :
      { other with pods := other.pods ++ arrivals [⟨pod, before.length⟩] place other.name } =
        other := by
    have hnone : arrivals [⟨pod, before.length⟩] place other.name = [] := by
      simp [arrivals, hplace.symm]
    rw [hnone, List.append_nil]
  rw [arranged, List.mapIdx_append, List.mapIdx_cons]
  congr 1
  · rw [List.mapIdx_eq_iff]
    intro place
    cases hload : before[place]? with
    | none => rfl
    | some other =>
      have hplace : place < before.length := (List.getElem?_eq_some_iff.1 hload).1
      rw [Option.map_some, hstay place other (by omega)]
  · congr 1
    · simp [arrivals, NodeLoad.add, Pod.boundTo]
    · rw [List.mapIdx_eq_iff]
      intro place
      cases after[place]? with
      | none => rfl
      | some other => rw [Option.map_some, hstay _ other (by omega)]

/-! ## Greedy moves -/

/-- **The first load that accepts a pod** is at a place. -/
structure FirstTo (judge : FitJudge) (pod : Pod) (loads : List NodeLoad) (place : Nat) : Prop where
  /-- The load at the place accepts the pod. -/
  accepts : ∃ load, loads[place]? = some load ∧ Fit.accepts judge pod load
  /-- No load before it does. -/
  refused : ∀ earlier load, earlier < place → loads[earlier]? = some load →
    Fit.accepts judge pod load = false

/-- **Moves are greedy**: each pod, bound to no node, goes to the first load that accepts it after
the moves before. -/
def Greedy (judge : FitJudge) (loads : List NodeLoad) (moves : List Move) : Prop :=
  ∀ earlier m later, moves = earlier ++ m :: later →
    FirstTo judge { m.pod with nodeName := none } (arranged loads earlier) m.place

/-- There is only one first load. -/
theorem FirstTo.unique {place other : Nat} (h : FirstTo judge pod loads place)
    (hother : FirstTo judge pod loads other) :
    place = other := by
  -- the one that is earlier would have been refused by the other
  have hle {a b : Nat} (ha : FirstTo judge pod loads a) (hb : FirstTo judge pod loads b) :
      b ≤ a := by
    obtain ⟨load, hload, haccepts⟩ := ha.accepts
    by_contra hlt
    have hrefused := hb.refused a load (by omega) hload
    rw [haccepts] at hrefused
    cases hrefused
  exact Nat.le_antisymm (hle hother h) (hle h hother)

theorem greedy_nil (judge : FitJudge) (loads : List NodeLoad) : Greedy judge loads [] := by
  intro earlier m later h
  exact absurd h (by simp)

/-- Greedy moves are a greedy first move, and greedy moves on what that leaves. -/
theorem greedy_cons_iff {m : Move} :
    Greedy judge loads (m :: moves) ↔
      FirstTo judge m.pod.unbound loads m.place ∧ Greedy judge (arranged loads [m]) moves := by
  constructor
  · intro h
    refine ⟨?_, fun earlier n later hsplit => ?_⟩
    · have hfirst := h [] m moves rfl
      rwa [arranged_nil] at hfirst
    · have hnext := h (m :: earlier) n later (by rw [hsplit, List.cons_append])
      rwa [arranged_cons] at hnext
  · rintro ⟨hfirst, hrest⟩ earlier n later hsplit
    cases earlier with
    | nil =>
      obtain ⟨rfl, rfl⟩ := List.cons.inj hsplit
      rwa [arranged_nil]
    | cons k earlier =>
      obtain ⟨rfl, rfl⟩ := List.cons.inj hsplit
      rw [arranged_cons]
      exact hrest earlier n later rfl

/-! ## Placements are greedy moves -/

/-- A pod is placed nowhere if every load refuses it, and only then. -/
theorem placeFirst?_eq_none_iff :
    placeFirst? judge pod loads = none ↔ ∀ load ∈ loads, Fit.accepts judge pod load = false := by
  induction loads with
  | nil => simp [placeFirst?]
  | cons load rest ih =>
    rw [placeFirst?, List.forall_mem_cons]
    by_cases haccepts : Fit.accepts judge pod load
    · simp [haccepts]
    · simp [haccepts, ih]

/-- **A placement is one greedy move.** -/
theorem placeFirst?_eq_some_iff {name : String} {placed : List NodeLoad} :
    placeFirst? judge pod.unbound loads = some (name, placed) ↔
      ∃ place, FirstTo judge pod.unbound loads place ∧ loads[place]?.map (·.name) = some name ∧
        placed = arranged loads [⟨pod, place⟩] := by
  have hmove {name : String} {placed : List NodeLoad} (h : placeFirst? judge pod.unbound loads =
      some (name, placed)) :
      ∃ place, FirstTo judge pod.unbound loads place ∧ loads[place]?.map (·.name) = some name ∧
        placed = arranged loads [⟨pod, place⟩] := by
    obtain ⟨before, load, after, rfl, hbefore, haccepts, rfl, rfl⟩ := placeFirst?_eq_some h
    have hload : (before ++ load :: after)[before.length]? = some load := by simp
    refine ⟨before.length, ⟨⟨load, hload, haccepts⟩, ?_⟩, by rw [hload]; rfl,
      (arranged_singleton before load after pod).symm⟩
    intro earlier other hlt hother
    rw [List.getElem?_append_left hlt] at hother
    exact hbefore other (List.mem_of_getElem? hother)
  refine ⟨hmove, ?_⟩
  rintro ⟨place, hfirst, hname, rfl⟩
  -- some load accepts the pod, so it is placed, and there is only one place for it
  cases hplaced : placeFirst? judge pod.unbound loads with
  | none =>
    obtain ⟨load, hload, haccepts⟩ := hfirst.accepts
    have hrefused := placeFirst?_eq_none_iff.1 hplaced load (List.mem_of_getElem? hload)
    rw [haccepts] at hrefused
    cases hrefused
  | some result =>
    obtain ⟨name', placed'⟩ := result
    obtain ⟨place', hfirst', hname', rfl⟩ := hmove hplaced
    obtain rfl := hfirst.unique hfirst'
    rw [hname] at hname'
    rw [Option.some.inj hname']

/-! ## Plans -/

/-- **A plan shows its moves.** -/
structure Shows (loads : List NodeLoad) (moves : List Move) (plan : DrainPlan) : Prop where
  /-- There is one placement for each move, in order. It names the pod and the node at the place. -/
  placements : List.Forall₂ (fun m placement => placement.pod = m.pod.key ∧
    loads[m.place]?.map (·.name) = some placement.node) moves plan.placements
  /-- The projection is what the moves leave. -/
  projected : plan.projected = arranged loads moves

/-- A plan shows a first move and others if what it says beyond the first move shows those on what
that leaves. -/
theorem shows_cons_iff {m : Move} {plan : DrainPlan} :
    Shows loads (m :: moves) plan ↔
      ∃ name rest, loads[m.place]?.map (·.name) = some name ∧
        Shows (arranged loads [m]) moves rest ∧
        plan = ⟨⟨m.pod.key, name⟩ :: rest.placements, rest.projected⟩ := by
  have harranged := arranged_cons loads m moves
  constructor
  · rintro ⟨hplacements, hprojected⟩
    obtain ⟨placements, projected⟩ := plan
    cases hplacements with
    | @cons _ placement _ placements hhead htail =>
      obtain ⟨placed, node⟩ := placement
      obtain ⟨rfl, hname⟩ := hhead
      refine ⟨node, ⟨placements, projected⟩, hname, ⟨?_, hprojected.trans harranged⟩, rfl⟩
      exact htail.imp fun n placement hn => ⟨hn.1, (name_arranged ..).trans hn.2⟩
  · rintro ⟨name, rest, hname, ⟨hplacements, hprojected⟩, rfl⟩
    refine ⟨.cons ⟨rfl, hname⟩ ?_, hprojected.trans harranged.symm⟩
    exact hplacements.imp fun n placement hn => ⟨hn.1, (name_arranged ..).symm.trans hn.2⟩

/-- **A plan is what greedy moves of all pods come to.** -/
theorem plan_eq_ok_iff {plan : DrainPlan} :
    DrainPlan.plan judge loads pods = .ok plan ↔
      ∃ moves, moves.map (·.pod) = pods ∧ Greedy judge loads moves ∧ Shows loads moves plan := by
  induction pods generalizing loads plan with
  | nil =>
    constructor
    · intro h
      cases h
      exact ⟨[], rfl, greedy_nil judge loads, .nil, (arranged_nil loads).symm⟩
    · rintro ⟨moves, hmoves, -, ⟨hplacements, hprojected⟩⟩
      obtain rfl := List.map_eq_nil_iff.1 hmoves
      obtain ⟨placements, projected⟩ := plan
      cases hplacements
      rw [arranged_nil] at hprojected
      exact congrArg (fun projected => Except.ok (DrainPlan.mk [] projected)) hprojected.symm
  | cons pod pods ih =>
    constructor
    · intro h
      obtain ⟨name, placed, rest, hplaced, hrest, rfl⟩ := plan_cons_eq_ok h
      obtain ⟨place, hfirst, hname, rfl⟩ := placeFirst?_eq_some_iff.1 hplaced
      obtain ⟨moves, hmoves, hgreedy, hshows⟩ := ih.1 hrest
      refine ⟨⟨pod, place⟩ :: moves, by rw [List.map_cons, hmoves],
        greedy_cons_iff.2 ⟨hfirst, hgreedy⟩, ?_⟩
      exact shows_cons_iff.2 ⟨name, rest, hname, hshows, rfl⟩
    · rintro ⟨moves, hmoves, hgreedy, hshows⟩
      obtain ⟨⟨pod, place⟩, moves, rfl, rfl, rfl⟩ := List.map_eq_cons_iff.1 hmoves
      obtain ⟨hfirst, hgreedy⟩ := greedy_cons_iff.1 hgreedy
      obtain ⟨name, rest, hname, hrest, rfl⟩ := shows_cons_iff.1 hshows
      have hplaced := placeFirst?_eq_some_iff.2 ⟨place, hfirst, hname, rfl⟩
      have hrest := ih.2 ⟨moves, rfl, hgreedy, hrest⟩
      simp only [DrainPlan.plan, hplaced, hrest]

/-- **There is no plan if greedy moves lead to a pod that no load accepts**, and only then. That pod
is named. -/
theorem plan_eq_error_iff {e : RebalanceError} :
    DrainPlan.plan judge loads pods = .error e ↔
      ∃ moves pod later, pods = moves.map (·.pod) ++ pod :: later ∧ Greedy judge loads moves ∧
        (∀ load ∈ arranged loads moves, Fit.accepts judge pod.unbound load = false) ∧
          e = .unplaceable pod.key := by
  induction pods generalizing loads with
  | nil => simp [DrainPlan.plan]
  | cons pod pods ih =>
    cases hplaced : placeFirst? judge pod.unbound loads with
    | none =>
      have hrefused := placeFirst?_eq_none_iff.1 hplaced
      simp only [DrainPlan.plan, hplaced]
      constructor
      · intro h
        cases h
        exact ⟨[], pod, pods, rfl, greedy_nil judge loads, by rwa [arranged_nil], rfl⟩
      · rintro ⟨moves, blocked, later, hpods, hgreedy, -, rfl⟩
        cases moves with
        | nil =>
          obtain ⟨rfl, rfl⟩ := List.cons.inj hpods
          rfl
        | cons m moves =>
          -- a first move would need a load that accepts the pod
          obtain ⟨rfl, -⟩ := List.cons.inj hpods
          obtain ⟨load, hload, haccepts⟩ := (greedy_cons_iff.1 hgreedy).1.accepts
          rw [hrefused load (List.mem_of_getElem? hload)] at haccepts
          cases haccepts
    | some result =>
      obtain ⟨name, placed⟩ := result
      obtain ⟨place, hfirst, -, rfl⟩ := placeFirst?_eq_some_iff.1 hplaced
      have hrest : DrainPlan.plan judge loads (pod :: pods) = .error e ↔
          DrainPlan.plan judge (arranged loads [⟨pod, place⟩]) pods = .error e := by
        simp only [DrainPlan.plan, hplaced]
        cases DrainPlan.plan judge (arranged loads [⟨pod, place⟩]) pods <;> simp
      rw [hrest, ih]
      constructor
      · rintro ⟨moves, blocked, later, rfl, hgreedy, hrefused, rfl⟩
        refine ⟨⟨pod, place⟩ :: moves, blocked, later, rfl,
          greedy_cons_iff.2 ⟨hfirst, hgreedy⟩, ?_, rfl⟩
        rwa [arranged_cons]
      · rintro ⟨moves, blocked, later, hpods, hgreedy, hrefused, rfl⟩
        cases moves with
        | nil =>
          obtain ⟨rfl, rfl⟩ := List.cons.inj hpods
          obtain ⟨load, hload, haccepts⟩ := hfirst.accepts
          rw [arranged_nil] at hrefused
          rw [hrefused load (List.mem_of_getElem? hload)] at haccepts
          cases haccepts
        | cons m moves =>
          obtain ⟨rfl, rfl⟩ := List.cons.inj hpods
          obtain ⟨hmove, hgreedy⟩ := greedy_cons_iff.1 hgreedy
          obtain rfl : place = m.place := hfirst.unique hmove
          refine ⟨moves, blocked, later, rfl, hgreedy, ?_, rfl⟩
          rwa [arranged_cons] at hrefused

/-- **A plan is greedy first fit**, whatever the judge, the loads and the pods. There is one exactly
if, after greedy moves of any of the first pods, some load accepts the next one. It then shows
greedy moves of all pods. Otherwise the first pod that no load accepts after greedy moves of those
before it is named. -/
theorem plan_greedy (judge : FitJudge) (loads : List NodeLoad) (pods : List Pod) :
    ((∃ plan, DrainPlan.plan judge loads pods = .ok plan) ↔
        ∀ moves pod later, pods = moves.map (·.pod) ++ pod :: later → Greedy judge loads moves →
          ∃ load ∈ arranged loads moves, Fit.accepts judge { pod with nodeName := none } load) ∧
      (∀ plan, DrainPlan.plan judge loads pods = .ok plan ↔
        ∃ moves, moves.map (·.pod) = pods ∧ Greedy judge loads moves ∧ Shows loads moves plan) ∧
      ∀ e, DrainPlan.plan judge loads pods = .error e ↔
        ∃ moves pod later, pods = moves.map (·.pod) ++ pod :: later ∧ Greedy judge loads moves ∧
          (∀ load ∈ arranged loads moves,
            Fit.accepts judge { pod with nodeName := none } load = false) ∧
            e = .unplaceable pod.key := by
  refine ⟨⟨?_, fun h => ?_⟩, fun plan => plan_eq_ok_iff, fun e => plan_eq_error_iff⟩
  · rintro ⟨plan, hplan⟩ moves pod later hpods hgreedy
    -- if all loads refused the pod there would be an error in place of the plan
    by_contra hnone
    simp only [not_exists, not_and, Bool.not_eq_true] at hnone
    have herror := plan_eq_error_iff.2 ⟨moves, pod, later, hpods, hgreedy, hnone, rfl⟩
    rw [hplan] at herror
    cases herror
  · cases hplan : DrainPlan.plan judge loads pods with
    | ok plan => exact ⟨plan, rfl⟩
    | error e =>
      obtain ⟨moves, pod, later, hpods, hgreedy, hrefused, -⟩ := plan_eq_error_iff.1 hplan
      obtain ⟨load, hload, haccepts⟩ := h moves pod later hpods hgreedy
      cases haccepts.symm.trans (hrefused load hload)

end SpotRebalance.DrainPlan
