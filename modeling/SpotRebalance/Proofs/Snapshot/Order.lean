import Mathlib.Data.List.Forall2
import SpotRebalance.Proofs.Fit.Order
import SpotRebalance.Proofs.Snapshot.Listing

/-! # Snapshots and the order of a listing

Pods may be listed in any order. As long as the pods of each on-demand node stay in order among
themselves (`Snapshot.Reordered`), the snapshot is the same but for the order of the pods on each
spot node (`rearranged_ofListing`). The order of the spot nodes themselves stays, since it depends
on the processor time that is requested on each, and that is a sum. -/

namespace SpotRebalance

/-- **Sorting keeps lists alike**: if two elements compare like the ones that they match, then two
lists that match element by element still do so after both are sorted. -/
theorem forall₂_mergeSort {α : Type} {R : α → α → Prop} {le : α → α → Bool}
    (hle : ∀ a a' b b', R a a' → R b b' → le a b = le a' b') {xs ys : List α}
    (h : List.Forall₂ R xs ys) :
    List.Forall₂ R (xs.mergeSort le) (ys.mergeSort le) := by
  -- both are sorted as the one list of matching pairs is
  have hlength := h.length_eq
  have hmatch : ∀ z ∈ xs.zip ys, R z.1 z.2 := fun z hz => List.forall₂_zip h hz
  have hfst : ((xs.zip ys).mergeSort fun z w => le z.1 w.1).map Prod.fst = xs.mergeSort le := by
    rw [List.map_mergeSort (s := le) fun _ _ _ _ => rfl, List.map_fst_zip (Nat.le_of_eq hlength)]
  have hsnd : ((xs.zip ys).mergeSort fun z w => le z.1 w.1).map Prod.snd = ys.mergeSort le := by
    rw [List.map_mergeSort (s := le) fun z hz w hw => hle _ _ _ _ (hmatch z hz) (hmatch w hw),
      List.map_snd_zip (Nat.le_of_eq hlength.symm)]
  rw [← hfst, ← hsnd, List.forall₂_map_left_iff, List.forall₂_map_right_iff, List.forall₂_same]
  exact fun z hz => hmatch z (List.mem_mergeSort.1 hz)

namespace Snapshot

variable {labels : RoleLabels} {nodes : List Node} {pods others : List Pod}

/-! ## Listings in another order -/

/-- **Two listings of pods differ in their order only**, and not in that of the pods bound to an
on-demand node. -/
structure Reordered (labels : RoleLabels) (nodes : List Node) (pods others : List Pod) : Prop where
  /-- The pods are the same but for their order. -/
  perm : pods.Perm others
  /-- The pods that are bound to an on-demand node are listed in the same order. -/
  onDemand : ∀ n ∈ nodes, labels.roleOf n = .onDemand → boundTo pods n.name = boundTo others n.name

namespace Reordered

/-- Some of the pods may be left out of both listings. -/
theorem filter (h : Reordered labels nodes pods others) (keep : Pod → Bool) :
    Reordered labels nodes (pods.filter keep) (others.filter keep) where
  perm := h.perm.filter keep
  onDemand n hn hrole := by
    have hcomm (ps : List Pod) : boundTo (ps.filter keep) n.name =
        (boundTo ps n.name).filter keep := by
      rw [boundTo, boundTo, List.filter_filter, List.filter_filter]
      exact List.filter_congr fun p _ => Bool.and_comm ..
    rw [hcomm, hcomm, h.onDemand n hn hrole]

/-- Nodes may be left out too. -/
theorem tail {n : Node} (h : Reordered labels (n :: nodes) pods others) :
    Reordered labels nodes pods others :=
  ⟨h.perm, fun m hm => h.onDemand m (List.mem_cons_of_mem _ hm)⟩

end Reordered

/-! ## Their snapshots -/

/-- A load of one listing holds the same pods as that of the other, and on an on-demand node in the
same order. -/
structure Matches (labels : RoleLabels) (a b : NodeLoad) : Prop where
  /-- The pods are the same but for their order. -/
  rearranged : a.Rearranged b
  /-- On an on-demand node they are in the same order. -/
  onDemand : labels.roleOf a.node = .onDemand → a = b

/-- **The loads of two listings match** if the listings differ in their order only. -/
theorem forall₂_loads (h : Reordered labels nodes pods others) :
    List.Forall₂ (Matches labels) (loads nodes pods) (loads nodes others) := by
  induction nodes generalizing pods others with
  | nil => exact .nil
  | cons n nodes ih =>
    -- the node takes its pods from both listings, and leaves listings that still differ in their
    -- order only
    refine .cons ⟨⟨rfl, h.perm.filter _⟩, fun hrole => ?_⟩ (ih (h.filter _).tail)
    exact congrArg (NodeLoad.mk n) (h.onDemand n List.mem_cons_self hrole)

/-- The loads of a role match as well. -/
theorem forall₂_ofRole (h : Reordered labels nodes pods others) (role : Role) :
    List.Forall₂ (Matches labels) ((loads nodes (live pods)).filter fun l =>
      labels.roleOf l.node == role)
      ((loads nodes (live others)).filter fun l => labels.roleOf l.node == role) := by
  refine List.rel_filter (fun a b hab => ?_) (forall₂_loads (h.filter _))
  simp only [hab.rearranged.node]

/-- **Two snapshots are the same but for the order of the pods on spot nodes.** -/
structure Rearranged (a b : Snapshot) : Prop where
  /-- The on-demand nodes are the same, in the same order, with the same pods. -/
  onDemand : a.onDemand = b.onDemand
  /-- The spot nodes are the same, in the same order, each with the same pods but for their
  order. -/
  spot : List.Forall₂ NodeLoad.Rearranged a.spot b.spot
  /-- As many nodes are not managed. -/
  ignored : a.ignored = b.ignored

/-- **A snapshot depends on the order of the pods of on-demand nodes only.** -/
theorem rearranged_ofListing (h : Reordered labels nodes pods others) :
    (ofListing labels nodes pods).Rearranged (ofListing labels nodes others) where
  onDemand := by
    have hrole : ∀ a ∈ (ofListing labels nodes pods).onDemand, labels.roleOf a.node = .onDemand :=
      fun a ha => beq_iff_eq.1 (List.mem_filter.1 ha).2
    have hloads := (List.forall₂_and_left _ _).2 ⟨hrole, forall₂_ofRole h .onDemand⟩
    have heq : List.Forall₂ Eq _ _ := hloads.imp fun a b hab => hab.2.onDemand hab.1
    rw [List.forall₂_eq_eq_eq] at heq
    exact heq
  spot := by
    refine forall₂_mergeSort (fun a a' b b' ha hb => ?_) ((forall₂_ofRole h .spot).imp
      fun a b hab => hab.rearranged)
    rw [busierOrEqual, busierOrEqual, ha.requested_eq, hb.requested_eq]
  ignored := (forall₂_ofRole h .other).length_eq

end Snapshot

end SpotRebalance
