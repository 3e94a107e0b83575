import Mathlib.Data.List.Perm.Basic
import SpotRebalance.Proofs.DrainPlan.FirstFit
import SpotRebalance.Proofs.Fit.Conditions

/-! # Plans as a whole

A plan checks each pod against the pods placed before it only. This module shows that the plan is
valid as a whole: every planned pod still fits its node beside all the others that are there in the
end.

A load is **settled** if every pod gained fits beside all others (`Settled`). Adding a pod that fits
keeps a load settled (`Settled.add`), because fitting is mutual (`Fits.add_of_fits`), so every
projection of a plan is settled (`forall₂_settled_projected`). What the conditions say about pods
that fit beside each other then holds of the node: its capacity is kept (`Settled.resources`,
`Settled.slots`), and no two pods that the plan brought together are in each other's way
(`Settled.ports`, `Settled.apart`, `Settled.apart_others`). -/

namespace SpotRebalance

/-- The load without the pod at a place in its list. -/
def NodeLoad.without (l : NodeLoad) (k : Nat) : NodeLoad := { l with pods := l.pods.eraseIdx k }

namespace DrainPlan

/-- **A settled load**: pods were only added to it, and each of them fits beside all the others. -/
structure Settled (load now : NodeLoad) : Prop where
  /-- The node is the same. -/
  node_eq : now.node = load.node
  /-- The pods of before come first. -/
  grown : load.pods <+: now.pods
  /-- Every pod gained, taken off its node, fits beside all the others. -/
  refits : ∀ k (hk : k < now.pods.length), load.pods.length ≤ k →
    Fit.Fits now.pods[k].unbound (now.without k)

namespace Settled

variable {load now : NodeLoad}

/-- A load that has gained nothing is settled. -/
theorem refl (load : NodeLoad) : Settled load load where
  node_eq := rfl
  grown := List.prefix_rfl
  refits := fun _ hk hnew => absurd hk (Nat.not_lt.2 hnew)

/-- **A pod that fits keeps a load settled.** It was checked against the pods before it, and each of
those fits beside it because fitting is mutual. -/
theorem add {p : Pod} (h : Settled load now) (hfits : Fit.Fits p.unbound now) (name : String) :
    Settled load (now.add (p.boundTo name)) := by
  refine ⟨h.node_eq, h.grown.trans (List.prefix_append ..), fun k hk hnew => ?_⟩
  rcases Nat.lt_or_ge k now.pods.length with hlt | hge
  · -- a pod gained before: it fitted beside the others, and the new pod fits beside all of them
    have hpod : (now.add (p.boundTo name)).pods[k] = now.pods[k] := List.getElem_append_left hlt
    have hrest : (now.add (p.boundTo name)).without k = (now.without k).add (p.boundTo name) := by
      simp only [NodeLoad.without, NodeLoad.add, List.eraseIdx_append_of_lt_length hlt]
    rw [hpod, hrest]
    exact Fit.Fits.add_of_fits (List.getElem_cons_eraseIdx_perm hlt).symm
      (h.refits k hlt hnew) hfits name
  · -- the pod just added: without it the load is the one it was checked on
    have hlast : k = now.pods.length := by
      rw [NodeLoad.pods_add, List.length_append, List.length_singleton] at hk
      omega
    subst hlast
    have hpod : (now.add (p.boundTo name)).pods[now.pods.length] = p.boundTo name := by
      simp [NodeLoad.add]
    have hrest : (now.add (p.boundTo name)).without now.pods.length = now := by
      simp [NodeLoad.without, NodeLoad.add, List.eraseIdx_append_of_length_le]
    rw [hpod, hrest]
    exact hfits

/-- Two pods of a load, one of them gained, at different places: the other is there when the one is
checked. -/
theorem mem_without {j k : Nat} (hj : j < now.pods.length) (hjk : j ≠ k) :
    now.pods[j] ∈ (now.without k).pods :=
  List.mem_eraseIdx_iff_getElem.2 ⟨j, hj, hjk, rfl⟩

/-- **A node that gains a pod keeps its capacity**: what its pods request together stays within what
it can allocate. -/
theorem resources (h : Settled load now) (hgained : load.pods.length < now.pods.length) :
    now.requested.fitsWithin now.node.allocatable := by
  -- the pod that came last was checked against the sum over all the others
  have hlast : now.pods.length - 1 < now.pods.length := by omega
  have hfits := (h.refits _ hlast (by omega)).resources
  have hperm : (now.pods.eraseIdx (now.pods.length - 1) ++ [now.pods[now.pods.length - 1]]).Perm
      now.pods :=
    (List.perm_append_singleton ..).trans (List.getElem_cons_eraseIdx_perm hlast)
  rw [NodeLoad.fitsWithin_requested, ← NodeLoad.sumRequests_perm hperm]
  rw [NodeLoad.sumRequests_append_singleton] at hfits ⊢
  exact hfits

/-- **A node that gains a pod keeps its number of pod slots**, if it limits them. -/
theorem slots (h : Settled load now) (hgained : load.pods.length < now.pods.length)
    (hlimit : 0 < now.node.allocatable.pods.val) :
    now.requested.pods ≤ now.node.allocatable.pods := by
  have hlast : now.pods.length - 1 < now.pods.length := by omega
  have hslot := (h.refits _ hlast (by omega)).slot hlimit
  simp only [NodeLoad.without, List.length_eraseIdx_of_lt hlast] at hslot
  rw [Amount.le_iff]
  simp only [NodeLoad.requested, Amount.val_ofNat]
  omega

section Pairs

variable {j k : Nat} (h : Settled load now) (hj : j < now.pods.length) (hk : k < now.pods.length)
  (hjk : j ≠ k) (hnew : load.pods.length ≤ k)

include h hj hk hjk hnew

/-- **A pod gained shares no host port** with another pod of its node. -/
theorem ports (used : HostPort) (hused : used ∈ now.pods[j].hostPorts) (wanted : HostPort)
    (hwanted : wanted ∈ now.pods[k].hostPorts) : used.conflictsWith wanted = false :=
  (h.refits k hk hnew).ports _ (mem_without hj hjk) used hused wanted hwanted

/-- **A pod gained keeps no other pod of its node apart from itself.** -/
theorem apart (term : PodAffinityTerm) (hterm : term ∈ now.pods[k].antiAffinity)
    (hdomain : now.node.inDomain term.topologyKey) :
    term.selects now.pods[k].ns now.pods[j].ns now.pods[j].labels = false :=
  (h.refits k hk hnew).far term hterm hdomain _ (mem_without hj hjk)

/-- **No other pod of its node keeps a pod gained apart from itself.** -/
theorem apart_others (term : PodAffinityTerm) (hterm : term ∈ now.pods[j].antiAffinity)
    (hdomain : now.node.inDomain term.topologyKey) :
    term.selects now.pods[j].ns now.pods[k].ns now.pods[k].labels = false :=
  (h.refits k hk hnew).far_others _ (mem_without hj hjk) term hterm hdomain

end Pairs

end Settled

/-- **Every load is settled in the end**, whatever the nodes and the pods of a plan. -/
theorem forall₂_settled_projected {loads : List NodeLoad} {pods : List Pod} {plan : DrainPlan}
    (h : DrainPlan.plan Fit.obstacle? loads pods = .ok plan) :
    List.Forall₂ Settled loads plan.projected := by
  refine forall₂_projected (fun load _ => Settled.refl load)
    (fun p _ load now hsettled haccepts => ?_) h
  exact hsettled.add (Fit.accepts_obstacle?_iff.1 haccepts) now.name

/-! ## The guarantee -/

/-- **What a plan guarantees of each load**, as the judge, the capacity of the node and its pods
show it. A place at or beyond the pods of before is that of a planned pod. -/
structure Guarantee (load now : NodeLoad) : Prop where
  /-- The node is the same. -/
  node_eq : now.node = load.node
  /-- The pods of before come first. -/
  grown : load.pods <+: now.pods
  /-- The judge still finds no obstacle to a planned pod beside all the others. -/
  refits : ∀ k (hk : k < now.pods.length), load.pods.length ≤ k →
    Fit.obstacle? now.pods[k].unbound (now.without k) = none
  /-- Processor time, memory and every named resource requested stay within what the node can
  allocate, if it received a pod. -/
  resources : load.pods.length < now.pods.length →
    now.requested.cpuMillis ≤ now.node.allocatable.cpuMillis ∧
      now.requested.memoryBytes ≤ now.node.allocatable.memoryBytes ∧
      ∀ name, now.requested.scalar name ≤ now.node.allocatable.scalar name
  /-- So do the pod slots, if the node limits them. -/
  slots : load.pods.length < now.pods.length → 0 < now.node.allocatable.pods.val →
    now.requested.pods ≤ now.node.allocatable.pods
  /-- No host port of a planned pod conflicts with one of another pod. -/
  ports : ∀ j k (hj : j < now.pods.length) (hk : k < now.pods.length), j ≠ k →
    load.pods.length ≤ k →
    ∀ used ∈ now.pods[j].hostPorts, ∀ wanted ∈ now.pods[k].hostPorts,
      used.conflictsWith wanted = false
  /-- No term of a planned pod that has a domain on the node selects another pod. -/
  apart : ∀ j k (hj : j < now.pods.length) (hk : k < now.pods.length), j ≠ k →
    load.pods.length ≤ k →
    ∀ term ∈ now.pods[k].antiAffinity, now.node.inDomain term.topologyKey →
      term.selects now.pods[k].ns now.pods[j].ns now.pods[j].labels = false
  /-- No term of another pod that has a domain on the node selects a planned pod. -/
  apart_others : ∀ j k (hj : j < now.pods.length) (hk : k < now.pods.length), j ≠ k →
    load.pods.length ≤ k → ∀ term ∈ now.pods[j].antiAffinity, now.node.inDomain term.topologyKey →
      term.selects now.pods[j].ns now.pods[k].ns now.pods[k].labels = false

/-- A settled load keeps every part of the guarantee. -/
theorem Settled.guarantee {load now : NodeLoad} (h : Settled load now) : Guarantee load now where
  node_eq := h.node_eq
  grown := h.grown
  refits k hk hnew := Fit.obstacle?_eq_none_iff_fits.2 (h.refits k hk hnew)
  resources hgained := by
    obtain ⟨hcpu, hmemory, hscalars⟩ := Resources.fitsWithin_iff.1 (h.resources hgained)
    refine ⟨hcpu, hmemory, fun name => ?_⟩
    rw [Resources.scalar]
    cases hget : now.requested.scalars.get? name with
    | none => exact Nat.zero_le _
    | some amount => exact hscalars name amount hget
  slots := h.slots
  ports _ _ hj hk hjk hnew := h.ports hj hk hjk hnew
  apart _ _ hj hk hjk hnew := h.apart hj hk hjk hnew
  apart_others _ _ hj hk hjk hnew := h.apart_others hj hk hjk hnew

/-- **A plan is valid as a whole.** Whatever the nodes and the pods, every load of the projection of
a plan keeps the guarantee towards the load it came from: each planned pod fits beside all pods
finally on its node. -/
theorem forall₂_guarantee_projected {loads : List NodeLoad} {pods : List Pod} {plan : DrainPlan}
    (h : DrainPlan.plan Fit.obstacle? loads pods = .ok plan) :
    List.Forall₂ Guarantee loads plan.projected :=
  (forall₂_settled_projected h).imp fun _ _ hsettled => hsettled.guarantee

/-- A replica of a cache: it claims a host port and keeps other replicas off its node. -/
def cacheReplica (name : String) : Pod where
  ns := "default"
  name := name
  labels := .ofList [("app", "cache")]
  requests := { cpuMillis := 400 }
  hostPorts := [.tcp 6379]
  antiAffinity :=
    [{ selector := { labels := .ofList [("app", "cache")] }, topologyKey := hostnameLabel }]

/-- A node with one core and two pod slots. -/
def smallNode (name : String) : Node where
  name := name
  allocatable := { cpuMillis := 1000, pods := 2 }

/-- Of two nodes, one with a replica, the other one takes the second replica, and a pod that came
later sits beside the first. -/
theorem guarantee_second_replica :
    let loads : List NodeLoad :=
  [⟨smallNode "spot-1", [cacheReplica "first"]⟩, ⟨smallNode "spot-2", []⟩]
    let web : Pod := { ns := "default", name := "web", requests := { cpuMillis := 600 } }
    let projected : List NodeLoad :=
      [⟨smallNode "spot-1", [cacheReplica "first", web.boundTo "spot-1"]⟩,
        ⟨smallNode "spot-2", [(cacheReplica "second").boundTo "spot-2"]⟩]
    DrainPlan.plan Fit.obstacle? loads [cacheReplica "second", web] =
        .ok ⟨[⟨"default/second", "spot-2"⟩, ⟨"default/web", "spot-1"⟩], projected⟩ ∧
      List.Forall₂ Guarantee loads projected := by
  intro loads web projected
  have hplan : DrainPlan.plan Fit.obstacle? loads [cacheReplica "second", web] =
      .ok ⟨[⟨"default/second", "spot-2"⟩, ⟨"default/web", "spot-1"⟩], projected⟩ := by
    decide +kernel
  exact ⟨hplan, forall₂_guarantee_projected hplan⟩

end DrainPlan

end SpotRebalance
