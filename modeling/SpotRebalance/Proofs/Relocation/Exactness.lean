import SpotRebalance.Proofs.Manifest.NodeConstraints
import SpotRebalance.Proofs.Rebalancer.Drainable

/-! # Which pods must move, exactly

A node is drained by moving its relocatable pods, and none of them may be moved against the will of
a budget. Here this choice is described by what pods, owners and budgets say, without any of the
functions that make it:

* a pod is **relocatable** unless it is a mirror pod, its first controlling owner is a daemon set,
  or it is ending (`Pod.Relocatable`);
* a budget **forbids** to evict a pod of its namespace that its selector selects if it allows no
  disruption (`DisruptionBudget.Forbids`), where a selector means what its requirements mean as
  expressions of the API;
* a pod may be moved if some owner controls it and no budget forbids it (`Pod.Movable`), and
  otherwise a budget or the lack of an owner **blocks** it (`Pod.BlockedBy`).

The choice is exactly this (`podsToMove_exact`). It follows that it can be made again on what it
chose, that the pods that need not move play no part in it, and that further budgets never lift a
refusal. -/

namespace SpotRebalance

/-! ## Budgets -/

section Budgets

variable {labels : Labels} {b : DisruptionBudget} {p : Pod}

/-- The expression that writes a requirement. -/
def Requirement.toExpression (r : Requirement) : ExpressionManifest :=
  ⟨r.key, r.operator.name, r.values⟩

/-- **A requirement means what its expression means.** -/
theorem Requirement.accepts_iff_metBy {r : Requirement} :
    r.accepts labels ↔ r.toExpression.MetBy labels := by
  rw [ExpressionManifest.metBy_iff_holds, ExpressionManifest.Holds, toExpression,
    SelectorOperator.ofName?_name]
  simp

/-- **A selector selects labels** that have all of its labels and meet all of its requirements. -/
structure LabelSelector.Selects (s : LabelSelector) (labels : Labels) : Prop where
  /-- They have its labels, with the same values. -/
  labelled : ∀ key value, s.labels.get? key = some value → labels.get? key = some value
  /-- They meet its requirements. -/
  requirements : ∀ r ∈ s.requirements, r.toExpression.MetBy labels

theorem LabelSelector.accepts_iff_selects {s : LabelSelector} :
    s.accepts labels ↔ s.Selects labels := by
  rw [accepts_iff]
  simp only [Requirement.accepts_iff_metBy]
  exact ⟨fun h => ⟨h.1, h.2⟩, fun h => ⟨h.labelled, h.requirements⟩⟩

/-- **A budget forbids to evict a pod.** -/
structure DisruptionBudget.Forbids (b : DisruptionBudget) (p : Pod) : Prop where
  /-- The pod is in the namespace of the budget. -/
  ns : b.ns = p.ns
  /-- The selector selects it. -/
  selected : b.selector.Selects p.labels
  /-- No disruption is allowed. -/
  exhausted : b.disruptionsAllowed < 1

theorem DisruptionBudget.covers_iff : b.covers p ↔ b.ns = p.ns ∧ b.selector.Selects p.labels := by
  rw [covers, Bool.and_eq_true, beq_iff_eq, LabelSelector.accepts_iff_selects]

/-- A budget forbids the eviction of a pod if it covers it and is exhausted. -/
theorem DisruptionBudget.forbids_iff : b.Forbids p ↔ (b.covers p && b.isExhausted) := by
  rw [Bool.and_eq_true, covers_iff, isExhausted, decide_eq_true_iff]
  exact ⟨fun h => ⟨⟨h.ns, h.selected⟩, h.exhausted⟩, fun h => ⟨h.1.1, h.1.2, h.2⟩⟩

end Budgets

/-! ## Pods -/

namespace Pod

variable {p : Pod} {budgets more : List DisruptionBudget} {e : RebalanceError}

/-- **An owner is the first that controls the pod.** -/
def ControlledBy (p : Pod) (owner : OwnerReference) : Prop :=
  ∃ before after, p.owners = before ++ owner :: after ∧ owner.controller ∧
    ∀ other ∈ before, ¬ other.controller

/-- **A pod is relocatable**: it must move before its node is drained. -/
structure Relocatable (p : Pod) : Prop where
  /-- It is no mirror pod. -/
  unmirrored : p.annotations.get? mirrorAnnotation = none
  /-- Its first controlling owner, if it has one, is no daemon set. -/
  notDaemon : ∀ owner, p.ControlledBy owner → owner.kind ≠ "DaemonSet"
  /-- It is not being deleted. -/
  staying : ¬ p.terminating
  /-- It has not ended. -/
  unfinished : p.phase ≠ .succeeded ∧ p.phase ≠ .failed

/-- **A pod may be moved**: some owner would start it again, and no budget forbids to evict it. -/
structure Movable (budgets : List DisruptionBudget) (p : Pod) : Prop where
  /-- An owner controls it. -/
  controlled : ∃ owner ∈ p.owners, owner.controller
  /-- No budget forbids it. -/
  allowed : ∀ b ∈ budgets, ¬ b.Forbids p

/-- **Why a pod must not be moved.** That it has no controlling owner comes before all budgets, and
the budgets come in the order in which they are listed. -/
inductive BlockedBy (budgets : List DisruptionBudget) (p : Pod) : RebalanceError → Prop where
  /-- No owner controls it. -/
  | unmanaged (owners : ∀ owner ∈ p.owners, ¬ owner.controller) :
      BlockedBy budgets p (.podNotReplicated p.key)
  /-- A budget forbids it, and none before that one does. -/
  | exhausted {before b after} (controlled : ∃ owner ∈ p.owners, owner.controller)
    (listed : budgets = before ++ b :: after) (forbids : b.Forbids p)
    (first : ∀ other ∈ before, ¬ other.Forbids p) :
    BlockedBy budgets p (.budgetExhausted p.key b.key)

theorem controller?_eq_some_iff {owner : OwnerReference} :
    p.controller? = some owner ↔ p.ControlledBy owner := by
  rw [controller?, List.find?_eq_some_iff_append, ControlledBy]
  simp only [Bool.not_eq_true', Bool.not_eq_true]
  constructor
  · rintro ⟨hcontroller, before, after, howners, hbefore⟩
    exact ⟨before, after, howners, hcontroller, hbefore⟩
  · rintro ⟨before, after, howners, hcontroller, hbefore⟩
    exact ⟨hcontroller, before, after, howners, hbefore⟩

theorem controller?_eq_none_iff :
    p.controller? = none ↔ ∀ owner ∈ p.owners, ¬ owner.controller := by
  simp [controller?]

theorem isSome_controller?_iff : p.controller?.isSome ↔ ∃ owner ∈ p.owners, owner.controller := by
  simp [controller?]

theorem isDaemon_iff : p.isDaemon ↔ ∃ owner, p.ControlledBy owner ∧ owner.kind = "DaemonSet" := by
  simp only [isDaemon, Option.any_eq_true, beq_iff_eq, controller?_eq_some_iff]

theorem isEnding_iff : p.isEnding ↔ p.terminating ∨ p.phase = .succeeded ∨ p.phase = .failed := by
  rw [isEnding, Bool.or_eq_true]
  cases p.phase <;> simp [PodPhase.isTerminal]

/-- A pod is relocatable exactly if it is taken for one that must move. -/
theorem relocatable_iff : p.Relocatable ↔ p.isRelocatable := by
  have hmirror : p.isMirror = false ↔ p.annotations.get? mirrorAnnotation = none := by
    simp [isMirror, NameTable.contains]
  have hdaemon : p.isDaemon = false ↔ ∀ owner, p.ControlledBy owner → owner.kind ≠ "DaemonSet" := by
    rw [← Bool.not_eq_true, isDaemon_iff]
    constructor
    · exact fun h owner howner hkind => h ⟨owner, howner, hkind⟩
    · rintro h ⟨owner, howner, hkind⟩
      exact h owner howner hkind
  have hending : p.isEnding = false ↔ ¬ p.terminating ∧ p.phase ≠ .succeeded ∧
      p.phase ≠ .failed := by
    rw [← Bool.not_eq_true, isEnding_iff, not_or, not_or]
  simp only [isRelocatable, Bool.and_eq_true, Bool.not_eq_true', hmirror, hdaemon, hending]
  exact ⟨fun h => ⟨⟨h.unmirrored, h.notDaemon⟩, h.staying, h.unfinished⟩, fun h =>
    ⟨h.1.1, h.1.2, h.2.1, h.2.2⟩⟩

instance : DecidablePred Relocatable :=
  fun p => decidable_of_iff (p.isRelocatable = true) relocatable_iff.symm

theorem decide_relocatable (p : Pod) : decide p.Relocatable = p.isRelocatable := by
  rw [Bool.eq_iff_iff, decide_eq_true_iff, relocatable_iff]

/-- A pod may be moved exactly if it has a controller and every budget that covers it allows a
disruption. -/
theorem movable_iff : p.Movable budgets ↔ p.Evictable budgets := by
  constructor
  · intro h
    refine ⟨isSome_controller?_iff.2 h.controlled, fun b hb hcovers => ?_⟩
    obtain ⟨hns, hselected⟩ := DisruptionBudget.covers_iff.1 hcovers
    exact not_lt.1 fun hexhausted => h.allowed b hb ⟨hns, hselected, hexhausted⟩
  · intro h
    refine ⟨isSome_controller?_iff.1 h.managed, fun b hb hforbids => ?_⟩
    exact not_le.2 hforbids.exhausted
      (h.affordable b hb (DisruptionBudget.covers_iff.2 ⟨hforbids.ns, hforbids.selected⟩))

/-- The budget that is found is the first one that forbids the eviction. -/
theorem find?_forbids_iff {b : DisruptionBudget} :
    (budgets.find? fun b => b.covers p && b.isExhausted) = some b ↔
      ∃ before after, budgets = before ++ b :: after ∧ b.Forbids p ∧
        ∀ other ∈ before, ¬ other.Forbids p := by
  simp only [List.find?_eq_some_iff_append, DisruptionBudget.forbids_iff, Bool.not_eq_true',
    Bool.not_eq_true]
  constructor
  · rintro ⟨hforbids, before, after, hbudgets, hbefore⟩
    exact ⟨before, after, hbudgets, hforbids, hbefore⟩
  · rintro ⟨before, after, hbudgets, hforbids, hbefore⟩
    exact ⟨hforbids, before, after, hbudgets, hbefore⟩

/-- What blocks a pod is what is found. -/
theorem blockedBy_iff : p.BlockedBy budgets e ↔ Relocation.blocker? budgets p = some e := by
  rw [Relocation.blocker?]
  constructor
  · rintro (howners | ⟨hcontrolled, hlisted, hforbids, hfirst⟩)
    · rw [controller?_eq_none_iff.2 howners, Option.isNone_none, if_pos rfl]
    · obtain ⟨owner, howner⟩ := Option.isSome_iff_exists.1 (isSome_controller?_iff.2 hcontrolled)
      rw [howner, Option.isNone_some, if_neg Bool.false_ne_true,
        find?_forbids_iff.2 ⟨_, _, hlisted, hforbids, hfirst⟩, Option.map_some]
  · intro h
    cases hcontroller : p.controller? with
    | none =>
      rw [hcontroller, Option.isNone_none, if_pos rfl] at h
      obtain rfl := Option.some.inj h
      exact .unmanaged (controller?_eq_none_iff.1 hcontroller)
    | some owner =>
      rw [hcontroller, Option.isNone_some, if_neg Bool.false_ne_true] at h
      obtain ⟨b, hfind, rfl⟩ := Option.map_eq_some_iff.1 h
      obtain ⟨before, after, hlisted, hforbids, hfirst⟩ := find?_forbids_iff.1 hfind
      exact .exhausted (isSome_controller?_iff.1 (by rw [hcontroller, Option.isSome_some])) hlisted
        hforbids hfirst

/-- With fewer budgets a pod may still be moved. -/
theorem Movable.of_fewer (h : p.Movable more) (hfewer : budgets ⊆ more) : p.Movable budgets :=
  ⟨h.controlled, fun b hb => h.allowed b (hfewer hb)⟩

end Pod

/-! ## The choice -/

namespace Relocation

variable {pods moved : List Pod} {budgets more : List DisruptionBudget} {e : RebalanceError}

/-- The choice depends on the relocatable pods alone. -/
theorem podsToMove_congr {other : List Pod}
    (h : other.filter Pod.isRelocatable = pods.filter Pod.isRelocatable) :
    podsToMove other budgets = podsToMove pods budgets := by
  rw [podsToMove, podsToMove, h]

/-- **All relocatable pods are chosen if they may be moved.** -/
theorem podsToMove_eq_ok_iff_movable :
    podsToMove pods budgets = .ok moved ↔
      moved = pods.filter (·.Relocatable) ∧ ∀ p ∈ pods, p.Relocatable → p.Movable budgets := by
  simp only [podsToMove_eq_ok_iff, Pod.decide_relocatable, ← Pod.movable_iff]
  refine and_congr_right fun hmoved => ?_
  subst hmoved
  simp only [List.mem_filter, ← Pod.relocatable_iff, and_imp]

/-- **The first relocatable pod that is blocked is named**, with what blocks it. -/
theorem podsToMove_eq_error_iff :
    podsToMove pods budgets = .error e ↔
      ∃ before p after, pods = before ++ p :: after ∧ p.Relocatable ∧ p.BlockedBy budgets e ∧
        ∀ q ∈ before, q.Relocatable → q.Movable budgets := by
  have hblocker : podsToMove pods budgets = .error e ↔
      (pods.filter Pod.isRelocatable).findSome? (blocker? budgets) = some e := by
    rw [podsToMove]
    cases (pods.filter Pod.isRelocatable).findSome? (blocker? budgets) <;> simp
  rw [hblocker, List.findSome?_eq_some_iff]
  simp only [Pod.blockedBy_iff, Pod.movable_iff, ← blocker?_eq_none_iff, Pod.relocatable_iff]
  constructor
  · -- the pods before the first blocked one among the relocatable ones stand before it in the list
    -- as well
    rintro ⟨front, p, back, hsplit, hp, hfront⟩
    obtain ⟨before, rest, rfl, rfl, hrest⟩ := List.filter_eq_append_iff.1 hsplit
    obtain ⟨idle, after, rfl, hidle, hrelocatable, rfl⟩ := List.filter_eq_cons_iff.1 hrest
    refine ⟨before ++ idle, p, after, (List.append_assoc ..).symm, hrelocatable, hp,
      fun q hq hq' => ?_⟩
    rcases List.mem_append.1 hq with hq | hq
    · exact hfront q (List.mem_filter.2 ⟨hq, hq'⟩)
    · exact absurd hq' (hidle q hq)
  · rintro ⟨before, p, after, rfl, hrelocatable, hp, hbefore⟩
    refine ⟨before.filter Pod.isRelocatable, p, after.filter Pod.isRelocatable, ?_, hp,
      fun q hq => ?_⟩
    · rw [List.filter_append, List.filter_cons_of_pos hrelocatable]
    · obtain ⟨hq, hq'⟩ := List.mem_filter.1 hq
      exact hbefore q hq hq'

/-- A choice that was refused is refused with more budgets as well. -/
theorem podsToMove_error_of_more (h : podsToMove pods budgets = .error e) (hmore : budgets ⊆ more) :
    ∃ e', podsToMove pods more = .error e' := by
  cases hchoice : podsToMove pods more with
  | error e' => exact ⟨e', rfl⟩
  | ok moved =>
    -- with the few budgets all would have been chosen too
    obtain ⟨-, hmovable⟩ := podsToMove_eq_ok_iff_movable.1 hchoice
    have hok :=
      podsToMove_eq_ok_iff_movable.2 ⟨rfl, fun p hp hp' => (hmovable p hp hp').of_fewer hmore⟩
    rw [h] at hok
    cases hok

/-- **The choice of pods is exact**, whatever the pods and the budgets.

Pods are chosen exactly if every relocatable pod has a controlling owner and no budget that forbids
to evict it; they are then all relocatable pods, in order. Otherwise the first relocatable pod of
which this fails is named, and with it the lack of an owner or else the first budget that forbids
it. What was chosen is chosen again; pods that are not relocatable can be put in and taken out
anywhere; and what is refused stays refused when there are more budgets. -/
theorem podsToMove_exact (pods : List Pod) (budgets : List DisruptionBudget) :
    (∀ moved, podsToMove pods budgets = .ok moved ↔
        moved = pods.filter (·.Relocatable) ∧ ∀ p ∈ pods, p.Relocatable → p.Movable budgets) ∧
      (∀ e, podsToMove pods budgets = .error e ↔
        ∃ before p after, pods = before ++ p :: after ∧ p.Relocatable ∧ p.BlockedBy budgets e ∧
          ∀ q ∈ before, q.Relocatable → q.Movable budgets) ∧
      (∀ moved, podsToMove pods budgets = .ok moved → podsToMove moved budgets = .ok moved) ∧
      (∀ before idle after, pods = before ++ after → (∀ p ∈ idle, ¬ p.Relocatable) →
        podsToMove (before ++ idle ++ after) budgets = podsToMove pods budgets) ∧
      ∀ more, budgets ⊆ more → ∀ e, podsToMove pods budgets = .error e →
        ∃ e', podsToMove pods more = .error e' := by
  refine ⟨fun moved => podsToMove_eq_ok_iff_movable, fun e => podsToMove_eq_error_iff,
    fun moved h => ?_, ?_, fun more hmore e h => podsToMove_error_of_more h hmore⟩
  · -- filtering a second time takes nothing out
    obtain ⟨rfl, -⟩ := podsToMove_eq_ok_iff.1 h
    have hagain : (pods.filter Pod.isRelocatable).filter Pod.isRelocatable =
        pods.filter Pod.isRelocatable := by
      simp
    rw [podsToMove_congr hagain, h]
  · rintro before idle after rfl hidle
    refine podsToMove_congr ?_
    have hnone : idle.filter Pod.isRelocatable = [] :=
      List.filter_eq_nil_iff.2 fun p hp h => hidle p hp (Pod.relocatable_iff.2 h)
    rw [List.filter_append, List.filter_append, hnone, List.append_nil, List.filter_append]

end Relocation

end SpotRebalance
