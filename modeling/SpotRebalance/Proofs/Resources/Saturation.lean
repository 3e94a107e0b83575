import SpotRebalance.NodeLoad

/-! # Saturating sums

Sums that stop at the greatest amount are still sums: neither the order of the parts nor the way
they are grouped matters. Amounts and resources are commutative and associative under addition, so
what pods request together (`NodeLoad.sumRequests`) depends on the pods alone, not on the order in
which they were counted (`sumRequests_perm`).

Whether a pod fits beside others is then the question whether one sum fits
(`fitsWithin_requested_add`). -/

namespace SpotRebalance

namespace Amount

/-- Amounts add up in either order. -/
protected theorem add_comm (a b : Amount) : a + b = b + a := by
  ext
  rw [val_add, val_add, Nat.add_comm]

/-- Amounts add up however they are grouped: a sum that has stopped at the greatest amount stays
there. -/
protected theorem add_assoc (a b c : Amount) : a + b + c = a + (b + c) := by
  ext
  simp only [val_add]
  omega

end Amount

namespace NameTable

variable {α : Type} {combine : α → α → α}

/-- Merging by a commutative operation is commutative. -/
theorem merge_comm (hcomm : ∀ a b, combine a b = combine b a) (t u : NameTable α) :
    t.merge combine u = u.merge combine t := by
  apply ext_get?
  intro name
  rw [get?_merge, get?_merge]
  cases t.get? name <;> cases u.get? name <;> simp [combineOption, hcomm]

/-- Merging by an associative operation is associative. -/
theorem merge_assoc (hassoc : ∀ a b c, combine (combine a b) c = combine a (combine b c))
    (t u v : NameTable α) :
    (t.merge combine u).merge combine v = t.merge combine (u.merge combine v) := by
  apply ext_get?
  intro name
  simp only [get?_merge]
  cases t.get? name <;> cases u.get? name <;> cases v.get? name <;> simp [combineOption, hassoc]

end NameTable

namespace Resources

/-- Resources add up in either order. -/
protected theorem add_comm (a b : Resources) : a + b = b + a := by
  ext1
  · exact Amount.add_comm ..
  · exact Amount.add_comm ..
  · exact Amount.add_comm ..
  · exact NameTable.merge_comm Amount.add_comm ..

/-- Resources add up however they are grouped. -/
protected theorem add_assoc (a b c : Resources) : a + b + c = a + (b + c) := by
  ext1
  · exact Amount.add_assoc ..
  · exact Amount.add_assoc ..
  · exact Amount.add_assoc ..
  · exact NameTable.merge_assoc Amount.add_assoc ..

/-- The last two parts of a sum may change places. -/
theorem add_right_comm (a b c : Resources) : a + b + c = a + c + b := by
  rw [Resources.add_assoc, Resources.add_comm b, ← Resources.add_assoc]

/-- **Pod slots are no part of a fit.** Resources that differ in their pod slots only fit the same
capacities. -/
theorem fitsWithin_congr {a b : Resources} (hcpu : a.cpuMillis = b.cpuMillis)
    (hmemory : a.memoryBytes = b.memoryBytes) (hscalars : a.scalars = b.scalars)
    (capacity : Resources) :
    a.fitsWithin capacity = b.fitsWithin capacity := by
  rw [fitsWithin, hcpu, hmemory, hscalars, fitsWithin]

end Resources

namespace NodeLoad

/-- The sum of the requests of one more pod. -/
theorem sumRequests_append_singleton (pods : List Pod) (p : Pod) :
    sumRequests (pods ++ [p]) = sumRequests pods + p.requests := by
  rw [sumRequests, List.foldl_append]
  rfl

/-- **What pods request together does not depend on their order.** -/
theorem sumRequests_perm {xs ys : List Pod} (h : xs.Perm ys) : sumRequests xs = sumRequests ys := by
  refine h.foldl_eq' (fun p _ q _ sum => ?_) ({} : Resources)
  exact Resources.add_right_comm ..

/-- The same pods request the same together, whatever node they are on. -/
theorem requested_perm {a b : NodeLoad} (h : a.pods.Perm b.pods) : a.requested = b.requested := by
  rw [requested, requested, sumRequests_perm h, h.length_eq]

/-- The requests of the pods on a node fit a capacity exactly if their sum does. -/
theorem fitsWithin_requested (l : NodeLoad) (capacity : Resources) :
    l.requested.fitsWithin capacity = (sumRequests l.pods).fitsWithin capacity :=
  Resources.fitsWithin_congr rfl rfl rfl capacity

/-- **A pod fits beside the pods on a node exactly if the sum over all of them fits.** -/
theorem fitsWithin_requested_add (l : NodeLoad) (p : Pod) (capacity : Resources) :
    (l.requested + p.requests).fitsWithin capacity =
      (sumRequests (l.pods ++ [p])).fitsWithin capacity := by
  rw [sumRequests_append_singleton]
  exact Resources.fitsWithin_congr rfl rfl rfl capacity

end NodeLoad

end SpotRebalance
