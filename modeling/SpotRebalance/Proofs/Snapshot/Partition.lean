import Mathlib.Data.List.Flatten
import Mathlib.Data.List.Perm.Subperm
import SpotRebalance.Proofs.Snapshot.Listing

/-! # A snapshot loses and duplicates nothing

Sorting a listing by role puts every node in one place and every pod on one node. Managed nodes keep
their listing order, spot nodes after a stable sort by the processor time that is requested on them
(`SortsFalling`), and the rest is counted, so the sizes add up (`length_add_length_add_ignored`).
Each node holds the listed pods that have not ended and are bound to its name, in listing order. No
other snapshot is sorted so (`Partitions.unique`).

If names are repeated, the pods go to the first node of their name. So the nodes hold no pod in
common, and together no pod more often than it is listed (`managed_subperm`). -/

namespace SpotRebalance

/-! ## Stable sorting -/

/-- **A list sorts another by a key**, greatest first: it holds the same elements, their keys fall,
and elements with the same key stand in the order in which they came. -/
structure SortsFalling {α : Type} (key : α → ℕ) (xs ys : List α) : Prop where
  /-- The elements are the same but for their order. -/
  perm : ys.Perm xs
  /-- No key is greater than an earlier one. -/
  falling : ys.Pairwise fun a b => key b ≤ key a
  /-- The elements of one key are in the same order. -/
  ties : ∀ k, ys.filter (fun a => key a == k) = xs.filter fun a => key a == k

/-- **Merge sort sorts stably**, if elements are compared by their keys. -/
theorem sortsFalling_mergeSort {α : Type} {key : α → ℕ} {le : α → α → Bool}
    (hle : ∀ a b, le a b ↔ key b ≤ key a) (xs : List α) :
    SortsFalling key xs (xs.mergeSort le) := by
  have htrans : ∀ a b c, le a b = true → le b c = true → le a c = true := by
    intro a b c hab hbc
    rw [hle] at hab hbc ⊢
    omega
  have htotal : ∀ a b, (le a b || le b a) = true := by
    intro a b
    rw [Bool.or_eq_true, hle, hle]
    omega
  have hperm : (xs.mergeSort le).Perm xs := List.mergeSort_perm ..
  refine ⟨hperm, ?_, fun k => ?_⟩
  · exact (List.pairwise_mergeSort htrans htotal xs).imp fun hab => (hle ..).1 hab
  · -- the elements of one key are a sublist in order before, so they are one afterwards, and there
    -- are no others
    let ofKey (ys : List α) := ys.filter fun a => key a == k
    have hordered : (ofKey xs).Pairwise fun a b => le a b = true := by
      refine List.pairwise_of_forall_mem_list fun a ha b hb => ?_
      have hka : key a = k := by simpa using (List.mem_filter.1 ha).2
      have hkb : key b = k := by simpa using (List.mem_filter.1 hb).2
      exact (hle a b).2 (by omega)
    have hsub : (ofKey xs).Sublist (xs.mergeSort le) :=
      List.sublist_mergeSort htrans htotal hordered List.filter_sublist
    have hkept : (ofKey xs).Sublist (ofKey (xs.mergeSort le)) := by
      have hfilter := hsub.filter fun a => key a == k
      simpa only [ofKey, List.filter_filter, Bool.and_self] using hfilter
    exact (hkept.eq_of_length (hperm.filter _).length_eq.symm).symm

/-- A list has the elements of another that has the same ones of every key. -/
theorem mem_of_ties {α : Type} {key : α → ℕ} {ys zs : List α}
    (hties : ∀ k, ys.filter (fun a => key a == k) = zs.filter fun a => key a == k) {a : α}
    (ha : a ∈ ys) : a ∈ zs := by
  have hkey : a ∈ ys.filter fun b => key b == key a := List.mem_filter.2 ⟨ha, by simp⟩
  rw [hties] at hkey
  exact (List.mem_filter.1 hkey).1

/-- Lists whose keys fall are the same if they have the same elements of every key, in the same
order. -/
theorem eq_of_falling {α : Type} {key : α → ℕ} {ys zs : List α}
    (hys : ys.Pairwise fun a b => key b ≤ key a) (hzs : zs.Pairwise fun a b => key b ≤ key a)
    (hties : ∀ k, ys.filter (fun a => key a == k) = zs.filter fun a => key a == k) : ys = zs := by
  induction ys generalizing zs with
  | nil =>
    cases zs with
    | nil => rfl
    | cons b zs => cases mem_of_ties (fun k => (hties k).symm) List.mem_cons_self
  | cons a ys ih =>
    cases zs with
    | nil => cases mem_of_ties hties List.mem_cons_self
    | cons b zs =>
      obtain ⟨ha, hys⟩ := List.pairwise_cons.1 hys
      obtain ⟨hb, hzs'⟩ := List.pairwise_cons.1 hzs
      -- both begin with an element of the greatest key, so with the first one of that key
      have hle : key a ≤ key b := by
        rcases List.mem_cons.1 (mem_of_ties hties List.mem_cons_self) with rfl | hlater
        · exact Nat.le_refl _
        · exact hb a hlater
      have hge : key b ≤ key a := by
        rcases List.mem_cons.1 (mem_of_ties (fun k => (hties k).symm) List.mem_cons_self)
          with rfl | hlater
        · exact Nat.le_refl _
        · exact ha b hlater
      have hfirst := hties (key a)
      rw [List.filter_cons_of_pos (by simp),
        List.filter_cons_of_pos (by simpa using Nat.le_antisymm hge hle)] at hfirst
      obtain ⟨rfl, -⟩ := List.cons.inj hfirst
      refine congrArg (List.cons a) (ih hys hzs' fun k => ?_)
      have hk := hties k
      by_cases hak : key a = k
      · rw [List.filter_cons_of_pos (by simpa using hak),
          List.filter_cons_of_pos (by simpa using hak)] at hk
        exact (List.cons.inj hk).2
      · rwa [List.filter_cons_of_neg (by simpa using hak),
          List.filter_cons_of_neg (by simpa using hak)] at hk

/-- **A list is sorted stably in one way only.** -/
theorem SortsFalling.unique {α : Type} {key : α → ℕ} {xs ys zs : List α}
    (hys : SortsFalling key xs ys) (hzs : SortsFalling key xs zs) : ys = zs :=
  eq_of_falling hys.falling hzs.falling fun k => (hys.ties k).trans (hzs.ties k).symm

/-- Only the keys that occur have to be looked at. -/
theorem sortsFalling_iff {α : Type} {key : α → ℕ} {xs ys : List α} :
    SortsFalling key xs ys ↔ ys.Perm xs ∧ (ys.Pairwise fun a b => key b ≤ key a) ∧
      ∀ c ∈ xs, ys.filter (fun a => key a == key c) = xs.filter fun a => key a == key c := by
  constructor
  · rintro ⟨hperm, hfalling, hties⟩
    exact ⟨hperm, hfalling, fun c _ => hties (key c)⟩
  · rintro ⟨hperm, hfalling, hties⟩
    refine ⟨hperm, hfalling, fun k => ?_⟩
    by_cases hoccurs : ∃ c ∈ xs, key c = k
    · obtain ⟨c, hc, rfl⟩ := hoccurs
      exact hties c hc
    · -- no element has the key, before or afterwards
      have hnone : ∀ c ∈ xs, ¬ (key c == k) = true :=
        fun c hc heq => hoccurs ⟨c, hc, beq_iff_eq.1 heq⟩
      rw [List.filter_eq_nil_iff.2 hnone, List.filter_eq_nil_iff.2 fun c hc =>
        hnone c (hperm.mem_iff.1 hc)]

instance {α : Type} [DecidableEq α] {key : α → ℕ} {xs ys : List α} :
    Decidable (SortsFalling key xs ys) :=
  decidable_of_iff _ sortsFalling_iff.symm

namespace Snapshot

variable {labels : RoleLabels} {nodes : List Node} {pods : List Pod}

/-! ## The nodes -/

/-- The listed nodes with the on-demand label only. -/
def onDemandNodes (labels : RoleLabels) (nodes : List Node) : List Node :=
  nodes.filter fun n => n.hasLabel labels.onDemand && !n.hasLabel labels.spot

/-- The listed nodes with the spot label only. -/
def spotNodes (labels : RoleLabels) (nodes : List Node) : List Node :=
  nodes.filter fun n => n.hasLabel labels.spot && !n.hasLabel labels.onDemand

/-- The listed nodes with both labels or none. -/
def otherNodes (labels : RoleLabels) (nodes : List Node) : List Node :=
  nodes.filter fun n => n.hasLabel labels.onDemand == n.hasLabel labels.spot

/-- The nodes of each role, by their labels. -/
theorem filter_roleOf (labels : RoleLabels) (nodes : List Node) :
    nodes.filter (fun n => labels.roleOf n == .onDemand) = onDemandNodes labels nodes ∧
      nodes.filter (fun n => labels.roleOf n == .spot) = spotNodes labels nodes ∧
      nodes.filter (fun n => labels.roleOf n == .other) = otherNodes labels nodes := by
  refine ⟨List.filter_congr fun n _ => ?_, List.filter_congr fun n _ => ?_,
    List.filter_congr fun n _ => ?_⟩
  all_goals
    rw [RoleLabels.roleOf]
    cases n.hasLabel labels.onDemand <;> cases n.hasLabel labels.spot <;> rfl

/-- Every node has one of the three roles. -/
theorem countP_roleOf_add (labels : RoleLabels) (nodes : List Node) :
    (nodes.countP fun n => labels.roleOf n == .onDemand) +
      (nodes.countP fun n => labels.roleOf n == .spot) +
      (nodes.countP fun n => labels.roleOf n == .other) = nodes.length := by
  induction nodes with
  | nil => rfl
  | cons n nodes ih =>
    simp only [List.countP_cons, List.length_cons]
    cases labels.roleOf n <;> simp <;> omega

/-- **The sizes of a snapshot add up** to the number of listed nodes. -/
theorem length_add_length_add_ignored (labels : RoleLabels) (nodes : List Node) (pods : List Pod) :
    (ofListing labels nodes pods).onDemand.length + (ofListing labels nodes pods).spot.length +
      (ofListing labels nodes pods).ignored = nodes.length := by
  have hkept {role : Role} {kept : List NodeLoad} (h : (ofListing labels nodes pods).ofRole? role =
      some kept) :
      kept.length = nodes.countP fun n => labels.roleOf n == role := length_ofListing h
  have honDemand := @hkept .onDemand _ rfl
  have hspot := @hkept .spot _ rfl
  have hignored : (ofListing labels nodes pods).ignored = nodes.countP fun n =>
      labels.roleOf n == .other :=
    length_loads_filter ..
  rw [honDemand, hspot, hignored, countP_roleOf_add]

/-! ## The pods -/

/-- The pods of a load are pods of the listing. -/
theorem subset_of_mem_loads {load : NodeLoad} (h : load ∈ loads nodes pods) : load.pods ⊆ pods := by
  obtain ⟨-, hpods | hpods⟩ := mem_loads h
  · rw [hpods]
    exact List.nil_subset _
  · rw [hpods]
    exact List.filter_subset_self _

/-- **No pod is counted on two nodes**, also if names are repeated. -/
theorem pairwise_disjoint_loads (nodes : List Node) (pods : List Pod) :
    (loads nodes pods).Pairwise fun a b => List.Disjoint a.pods b.pods := by
  induction nodes generalizing pods with
  | nil => exact .nil
  | cons n nodes ih =>
    rw [loads]
    refine List.pairwise_cons.2 ⟨fun load hload pod hfirst hlater => ?_, ih _⟩
    -- the first node took all pods that are bound to its name
    have hbound : (pod.nodeName == some n.name) = true := (List.mem_filter.1 hfirst).2
    have hnot : (pod.nodeName != some n.name) = true :=
      (List.mem_filter.1 (subset_of_mem_loads hload hlater)).2
    rw [bne, hbound] at hnot
    cases hnot

/-- **All nodes together hold no pod more often than it is listed.** -/
theorem flatMap_pods_loads_subperm (nodes : List Node) (pods : List Pod) :
    ((loads nodes pods).flatMap (·.pods)).Subperm pods := by
  induction nodes generalizing pods with
  | nil => exact List.nil_subperm
  | cons n nodes ih =>
    rw [loads, List.flatMap_cons]
    have hsplit : (pods.filter (fun p => p.nodeName == some n.name) ++
        pods.filter fun p => p.nodeName != some n.name).Perm pods := List.filter_append_perm ..
    exact ((List.subperm_append_left _).2 (ih _)).trans hsplit.subperm

/-- The managed nodes are some of the listed ones, none of them twice. -/
theorem managed_subperm (labels : RoleLabels) (nodes : List Node) (pods : List Pod) :
    ((ofListing labels nodes pods).onDemand ++ (ofListing labels nodes pods).spot).Subperm
      (loads nodes (live pods)) := by
  let all := loads nodes (live pods)
  let isOnDemand (l : NodeLoad) := labels.roleOf l.node == .onDemand
  have hsplit : (all.filter isOnDemand ++ all.filter fun l => !isOnDemand l).Perm all :=
    List.filter_append_perm ..
  have hspot : (all.filter fun l => labels.roleOf l.node == .spot).Sublist
      (all.filter fun l => !isOnDemand l) := by
    refine List.monotone_filter_right _ fun l hl => ?_
    rw [beq_iff_eq] at hl
    simp [isOnDemand, hl]
  have hsorted : (ofListing labels nodes pods).spot.Subperm (all.filter fun l => !isOnDemand l) :=
    (List.mergeSort_perm ..).subperm.trans hspot.subperm
  exact ((List.subperm_append_left _).2 hsorted).trans hsplit.subperm

/-! ## The whole snapshot -/

/-- A node with the listed pods that have not ended and are bound to its name, in listing order. -/
def counted (pods : List Pod) (n : Node) : NodeLoad := ⟨n, boundTo (live pods) n.name⟩

/-- **A snapshot is the listing sorted by role.** -/
structure Partitions (labels : RoleLabels) (nodes : List Node) (pods : List Pod)
    (s : Snapshot) : Prop where
  /-- The nodes with the on-demand label only, in listing order, each with its pods. -/
  onDemand : s.onDemand = (onDemandNodes labels nodes).map (counted pods)
  /-- The nodes with the spot label only, each with its pods, the greatest requested processor time
  first. -/
  spot : SortsFalling (fun load => load.requested.cpuMillis.val)
    ((spotNodes labels nodes).map (counted pods)) s.spot
  /-- The number of the others. -/
  ignored : s.ignored = (otherNodes labels nodes).length

instance {s : Snapshot} : Decidable (s.Partitions labels nodes pods) :=
  decidable_of_iff (s.onDemand = (onDemandNodes labels nodes).map (counted pods) ∧
      SortsFalling (fun load => load.requested.cpuMillis.val)
        ((spotNodes labels nodes).map (counted pods)) s.spot ∧
      s.ignored = (otherNodes labels nodes).length)
    ⟨fun ⟨honDemand, hspot, hignored⟩ => ⟨honDemand, hspot, hignored⟩,
      fun ⟨honDemand, hspot, hignored⟩ => ⟨honDemand, hspot, hignored⟩⟩

/-- The snapshot of nodes with names of their own. -/
theorem partitions_of_nodup (hdistinct : (nodes.map (·.name)).Nodup) :
    (ofListing labels nodes pods).Partitions labels nodes pods := by
  have hloads : loads nodes (live pods) = nodes.map (counted pods) := loads_eq_map hdistinct
  have hrole (role : Role) :
      ((loads nodes (live pods)).filter fun l => labels.roleOf l.node == role) =
      (nodes.filter fun n => labels.roleOf n == role).map (counted pods) := by
    rw [hloads, List.filter_map]
    rfl
  obtain ⟨honDemand, hspot, hother⟩ := filter_roleOf labels nodes
  refine ⟨?_, ?_, ?_⟩
  · rw [← honDemand]
    exact hrole .onDemand
  · rw [← hspot, ← hrole .spot]
    exact sortsFalling_mergeSort (fun a b => decide_eq_true_iff) _
  · have hlength := congrArg List.length (hrole .other)
    rw [List.length_map, hother] at hlength
    exact hlength

/-- **A listing is sorted by role in one way only.** -/
theorem Partitions.unique {s t : Snapshot} (hs : s.Partitions labels nodes pods)
    (ht : t.Partitions labels nodes pods) :
    s = t := by
  obtain ⟨onDemand, spot, ignored⟩ := s
  obtain ⟨onDemand', spot', ignored'⟩ := t
  rw [mk.injEq]
  exact ⟨hs.onDemand.trans ht.onDemand.symm, hs.spot.unique ht.spot,
    hs.ignored.trans ht.ignored.symm⟩

/-- **A snapshot loses and duplicates nothing.** If no two nodes have the same name, it is the
listing sorted by role. In any case its sizes add up, no two of its nodes hold a pod in common, and
together they hold no pod more often than it is listed. -/
theorem ofListing_partitions (labels : RoleLabels) (nodes : List Node) (pods : List Pod) :
    ((nodes.map (·.name)).Nodup → ∀ s : Snapshot, s.Partitions labels nodes pods ↔
      s = ofListing labels nodes pods) ∧
      (ofListing labels nodes pods).onDemand.length + (ofListing labels nodes pods).spot.length +
        (ofListing labels nodes pods).ignored = nodes.length ∧
      ((ofListing labels nodes pods).onDemand ++ (ofListing labels nodes pods).spot).Pairwise
        (fun a b => List.Disjoint a.pods b.pods) ∧
      (((ofListing labels nodes pods).onDemand ++ (ofListing labels nodes pods).spot).flatMap
        (·.pods)).Subperm
        (live pods) := by
  obtain ⟨some, hperm, hsub⟩ := managed_subperm labels nodes pods
  refine ⟨fun hdistinct s => ⟨fun hs => hs.unique (partitions_of_nodup hdistinct), ?_⟩,
    length_add_length_add_ignored .., ?_, ?_⟩
  · rintro rfl
    exact partitions_of_nodup hdistinct
  · have hdisjoint := (pairwise_disjoint_loads nodes (live pods)).sublist hsub
    exact hperm.pairwise hdisjoint List.disjoint_symm
  · have hflat : (some.flatMap (·.pods)).Subperm ((loads nodes (live pods)).flatMap (·.pods)) :=
      (hsub.flatMap _).subperm
    exact ((hperm.flatMap_right _).symm.subperm.trans hflat).trans
      (flatMap_pods_loads_subperm nodes (live pods))

/-- Labels for the example. -/
def plainLabels : RoleLabels := ⟨"on-demand", "spot"⟩

/-- A node that carries labels. -/
def labelled (name : String) (keys : List String) : Node where
  name := name
  labels := .ofList (keys.map fun key => (key, ""))

/-- A pod that requests processor time and is bound to a node. -/
def busyPod (name node : String) (cpu : Amount) (phase : PodPhase) : Pod where
  ns := "default"
  name := name
  nodeName := some node
  requests := { cpuMillis := cpu }
  phase := phase

/-- Two spot nodes with the same requests stay in listing order behind a busier one. A node with
both labels is ignored, a pod that has ended is not counted, and neither is one that is bound to a
node that is not listed. -/
theorem ofListing_partitions_tied :
    let nodes :=
      [labelled "a" ["spot"], labelled "b" ["on-demand"], labelled "c" ["spot"],
        labelled "d" ["spot"], labelled "e" ["on-demand", "spot"]]
    let pods :=
      [busyPod "p" "c" 100 .running, busyPod "q" "a" 100 .running, busyPod "r" "d" 200 .pending,
        busyPod "s" "a" 300 .succeeded, busyPod "t" "f" 300 .running, busyPod "u" "b" 50 .unknown]
    (nodes.map (·.name)).Nodup ∧ ofListing plainLabels nodes pods =
      { onDemand := [⟨labelled "b" ["on-demand"], [busyPod "u" "b" 50 .unknown]⟩]
        spot := [⟨labelled "d" ["spot"], [busyPod "r" "d" 200 .pending]⟩,
          ⟨labelled "a" ["spot"], [busyPod "q" "a" 100 .running]⟩,
          ⟨labelled "c" ["spot"], [busyPod "p" "c" 100 .running]⟩]
        ignored := 1 } := by
  intro nodes pods
  have hdistinct : (nodes.map (·.name)).Nodup := by decide
  obtain ⟨hpartitions, -⟩ := ofListing_partitions plainLabels nodes pods
  exact ⟨hdistinct, ((hpartitions hdistinct _).1 (by decide)).symm⟩

end Snapshot

end SpotRebalance
