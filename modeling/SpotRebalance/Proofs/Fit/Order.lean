import SpotRebalance.Proofs.Fit.Conditions

/-! # Fitting and the order of pods

The predicates look through the pods of a node one after the other, and the obstacle that is
reported is the first one they come across. Whether there is one at all does not depend on the
order. Two loads that hold the same pods on the same node (`NodeLoad.Rearranged`) request the same
together (`Rearranged.requested_eq`) and accept the same pods (`Rearranged.accepts_eq`). -/

namespace SpotRebalance

/-- **Two loads hold the same pods** on the same node, each in an order of its own. -/
structure NodeLoad.Rearranged (a b : NodeLoad) : Prop where
  /-- The nodes are the same. -/
  node : a.node = b.node
  /-- The pods are the same but for their order. -/
  pods : a.pods.Perm b.pods

/-- **Fitting does not depend on the order of the pods on the node.** -/
theorem Fit.Fits.perm {pod : Pod} {n : Node} {xs ys : List Pod} (hperm : xs.Perm ys)
    (h : Fits pod ⟨n, xs⟩) :
    Fits pod ⟨n, ys⟩ := by
  -- what is asked of every pod on the node is asked of the same pods
  have hall {P : Pod → Prop} (hxs : ∀ p ∈ xs, P p) : ∀ p ∈ ys, P p :=
    fun p hp => hxs p (hperm.mem_iff.2 hp)
  refine { h with
    known_others := hall h.known_others, slot := ?_, resources := ?_, ports := hall h.ports,
    near := ?_, far := ?_, far_others := hall h.far_others }
  · intro hlimit
    rw [← hperm.length_eq]
    exact h.slot hlimit
  · rw [← NodeLoad.sumRequests_perm (hperm.append_right [pod])]
    exact h.resources
  · intro term hterm
    obtain ⟨hdomain, p, hp, hselects⟩ := h.near term hterm
    exact ⟨hdomain, p, hperm.mem_iff.1 hp, hselects⟩
  · exact fun term hterm hdomain => hall (h.far term hterm hdomain)

namespace NodeLoad.Rearranged

variable {a b : NodeLoad}

theorem symm (h : a.Rearranged b) : b.Rearranged a := ⟨h.node.symm, h.pods.symm⟩

theorem name_eq (h : a.Rearranged b) : a.name = b.name := congrArg Node.name h.node

/-- Another pod may be counted on both. -/
theorem add (h : a.Rearranged b) (p : Pod) : (a.add p).Rearranged (b.add p) :=
  ⟨h.node, h.pods.append_right [p]⟩

/-- **What pods request together does not depend on their order.** -/
theorem requested_eq (h : a.Rearranged b) : a.requested = b.requested := requested_perm h.pods

/-- **Two loads with the same pods accept the same pods.** -/
theorem accepts_eq (h : a.Rearranged b) (pod : Pod) :
    Fit.accepts Fit.obstacle? pod a = Fit.accepts Fit.obstacle? pod b := by
  obtain ⟨n, xs⟩ := a
  obtain ⟨m, ys⟩ := b
  obtain ⟨rfl, hperm⟩ := h
  rw [Bool.eq_iff_iff, Fit.accepts_obstacle?_iff, Fit.accepts_obstacle?_iff]
  exact ⟨.perm hperm, .perm hperm.symm⟩

end NodeLoad.Rearranged

end SpotRebalance
