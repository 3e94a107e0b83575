import SpotRebalance.Proofs.DrainPlan.Settled

/-! # Anti-affinity across the nodes of a plan

A required anti-affinity term keeps pods apart within a topology domain, and a domain can hold
several nodes. The judge looks at one node at a time. It refuses a pod whose own term reaches beyond
the node, but it does not see the terms of pods on other nodes.

So a plan keeps a planned pod apart from every other pod of its node, and from every pod that a
wider term of a planned pod could select (`Repels.of_planned`, `Repels.on_planned`). What is left
open are two cases, both between different nodes: the term belongs to a pod that was there before
the plan, or it is a hostname term and the two nodes share a hostname domain.
`separated_projected_iff` says that nothing else is: a plan separates its pods exactly if it
separates them in these two cases. It need not (`not_separated_in_shared_zone`), but it does if
nodes have hostname domains of their own and running pods have hostname terms only
(`separated_of_hostname_terms`). -/

namespace SpotRebalance

/-- Whether two nodes lie in one topology domain under a key. -/
def Node.SharesDomain (n m : Node) (key : String) : Prop :=
  ∃ domain, n.topology? key = some domain ∧ m.topology? key = some domain

/-- A node that shares a domain has one. -/
theorem Node.SharesDomain.inDomain_left {n m : Node} {key : String} (h : n.SharesDomain m key) :
    n.inDomain key := by
  obtain ⟨domain, hdomain, -⟩ := h
  simp [Node.inDomain, hdomain]

/-- Sharing a domain is mutual. -/
theorem Node.SharesDomain.symm {n m : Node} {key : String} (h : n.SharesDomain m key) :
    m.SharesDomain n key := by
  obtain ⟨domain, hn, hm⟩ := h
  exact ⟨domain, hm, hn⟩

namespace DrainPlan

/-- **A seat**: the place of a pod in an array of loads. -/
structure Seat (loads : List NodeLoad) where
  /-- The place of the load in the array. -/
  row : Fin loads.length
  /-- The place of the pod on the load. -/
  place : Fin loads[row].pods.length
  deriving DecidableEq

namespace Seat

variable {loads : List NodeLoad}

/-- The load that the seat is on. -/
def load (a : Seat loads) : NodeLoad := loads[a.row]

/-- The node of the seat. -/
def node (a : Seat loads) : Node := a.load.node

/-- The pod in the seat. -/
def pod (a : Seat loads) : Pod := loads[a.row].pods[a.place]

end Seat

section Seats

variable {loads projected : List NodeLoad}

/-- Whether the pod in a seat of the projection was added to the loads planned on. -/
def IsPlanned (loads : List NodeLoad) (a : Seat projected) : Prop :=
  ∃ load, loads[a.row.val]? = some load ∧ load.pods.length ≤ a.place.val

/-- **A required anti-affinity term is violated**: the term of the pod in one seat selects the pod
in another, and the two nodes lie in one domain of the term. -/
structure Repels (a b : Seat projected) (term : PodAffinityTerm) : Prop where
  /-- The term is one of the first pod. -/
  mem : term ∈ a.pod.antiAffinity
  /-- The nodes lie in one domain of the term. -/
  domain : a.node.SharesDomain b.node term.topologyKey
  /-- The term selects the second pod. -/
  selects : term.selects a.pod.ns b.pod.ns b.pod.labels

/-- **The pods of a plan are separated**: no term of a planned pod is violated by another pod of the
array, and no term of another pod by a planned one. -/
def Separated (loads projected : List NodeLoad) : Prop :=
  ∀ a b : Seat projected, a ≠ b → IsPlanned loads a → ∀ term, ¬ Repels a b term ∧ ¬ Repels b a term

/-- **The pods of a plan are separated where the judge does not look**: between different nodes, by
hostname terms and by the terms of pods that were there before. -/
def SeparatedUnseen (loads projected : List NodeLoad) : Prop :=
  ∀ a b : Seat projected, a.row ≠ b.row → IsPlanned loads a → ∀ term,
    (term.topologyKey = hostnameLabel → ¬ Repels a b term) ∧
      (term.topologyKey = hostnameLabel ∨ ¬ IsPlanned loads b → ¬ Repels b a term)

/-- A seat is on what the plan made of one of the loads. -/
theorem Seat.exists_settled (a : Seat projected) (h : List.Forall₂ Settled loads projected) :
    ∃ hrow : a.row.val < loads.length, Settled loads[a.row.val] a.load := by
  have hrow : a.row.val < loads.length := by
    rw [h.length_eq]
    exact a.row.isLt
  exact ⟨hrow, (List.forall₂_iff_get.1 h).2 a.row.val hrow a.row.isLt⟩

/-- A planned pod fits its node beside all the others there. -/
theorem IsPlanned.settled {a : Seat projected} (ha : IsPlanned loads a)
    (h : List.Forall₂ Settled loads projected) :
    ∃ load, Settled load a.load ∧ load.pods.length ≤ a.place.val := by
  obtain ⟨load, hload, hnew⟩ := ha
  obtain ⟨hrow, rfl⟩ := List.getElem?_eq_some_iff.1 hload
  obtain ⟨_, hsettled⟩ := a.exists_settled h
  exact ⟨loads[a.row.val], hsettled, hnew⟩

/-- A term of a planned pod that has a domain on its node is a hostname term: the judge refuses any
other. -/
theorem IsPlanned.hostname {a : Seat projected} (ha : IsPlanned loads a)
    (h : List.Forall₂ Settled loads projected) {term : PodAffinityTerm}
    (hterm : term ∈ a.pod.antiAffinity) (hdomain : a.node.inDomain term.topologyKey) :
    term.topologyKey = hostnameLabel := by
  obtain ⟨load, hsettled, hnew⟩ := ha.settled h
  exact (hsettled.refits a.place.val a.place.isLt hnew).verifiable term hterm hdomain

/-- Two pods on one node, one of them planned, violate no term of either. -/
theorem not_repels_of_row_eq {a b : Seat projected} (ha : IsPlanned loads a)
    (h : List.Forall₂ Settled loads projected) (hab : a ≠ b) (hrow : a.row = b.row)
    (term : PodAffinityTerm) :
    ¬ Repels a b term ∧ ¬ Repels b a term := by
  obtain ⟨load, hsettled, hnew⟩ := ha.settled h
  obtain ⟨row, place⟩ := a
  obtain ⟨row', place'⟩ := b
  cases hrow
  have hplace : place'.val ≠ place.val := by
    intro heq
    exact hab (congrArg (Seat.mk row) (Fin.ext heq.symm))
  constructor
  · intro hrepels
    have hfar :=
      hsettled.apart place'.isLt place.isLt hplace hnew term hrepels.mem
        hrepels.domain.inDomain_left
    exact Bool.eq_false_iff.1 hfar hrepels.selects
  · intro hrepels
    have hfar := hsettled.apart_others place'.isLt place.isLt hplace hnew term hrepels.mem
      hrepels.domain.inDomain_left
    exact Bool.eq_false_iff.1 hfar hrepels.selects

/-- **A violated term of a planned pod** is a hostname term, and the other pod is on another
node. -/
theorem Repels.of_planned {a b : Seat projected} {term : PodAffinityTerm}
    (hrepels : Repels a b term) (ha : IsPlanned loads a) (h : List.Forall₂ Settled loads projected)
    (hab : a ≠ b) :
    a.row ≠ b.row ∧ term.topologyKey = hostnameLabel :=
  ⟨fun hrow => (not_repels_of_row_eq ha h hab hrow term).1 hrepels,
    ha.hostname h hrepels.mem hrepels.domain.inDomain_left⟩

/-- **A term that a planned pod violates** belongs to a pod on another node, and is a hostname term
if that pod is planned too. -/
theorem Repels.on_planned {a b : Seat projected} {term : PodAffinityTerm}
    (hrepels : Repels b a term) (ha : IsPlanned loads a) (h : List.Forall₂ Settled loads projected)
    (hab : a ≠ b) :
    a.row ≠ b.row ∧ (term.topologyKey = hostnameLabel ∨ ¬ IsPlanned loads b) := by
  refine ⟨fun hrow => (not_repels_of_row_eq ha h hab hrow term).2 hrepels, ?_⟩
  by_cases hb : IsPlanned loads b
  · exact Or.inl (hb.hostname h hrepels.mem hrepels.domain.inDomain_left)
  · exact Or.inr hb

/-- **Separated where the judge does not look, separated everywhere**: the judge sees to all the
rest. -/
theorem SeparatedUnseen.separated (hunseen : SeparatedUnseen loads projected)
    (h : List.Forall₂ Settled loads projected) : Separated loads projected := by
  intro a b hab ha term
  constructor
  · intro hrepels
    obtain ⟨hrow, hkey⟩ := hrepels.of_planned ha h hab
    exact (hunseen a b hrow ha term).1 hkey hrepels
  · intro hrepels
    obtain ⟨hrow, hkey⟩ := hrepels.on_planned ha h hab
    exact (hunseen a b hrow ha term).2 hkey hrepels

/-- A pod that was not planned was there before. -/
theorem Seat.pod_mem_of_not_isPlanned {b : Seat projected} (hb : ¬ IsPlanned loads b)
    (h : List.Forall₂ Settled loads projected) :
    ∃ load ∈ loads, b.pod ∈ load.pods ∧ load.node = b.node := by
  obtain ⟨hrow, hsettled⟩ := b.exists_settled h
  have hplace : b.place.val < loads[b.row.val].pods.length := by
    refine Nat.lt_of_not_le fun hnew => hb ?_
    exact ⟨loads[b.row.val], List.getElem?_eq_getElem hrow, hnew⟩
  have hpod : loads[b.row.val].pods[b.place.val] = b.pod := hsettled.grown.getElem hplace
  exact ⟨loads[b.row.val], List.getElem_mem hrow, hpod ▸ List.getElem_mem hplace,
    hsettled.node_eq.symm⟩

/-- A plan moves no node into the hostname domain of another. -/
theorem Seat.not_sharesDomain {a b : Seat projected} (h : List.Forall₂ Settled loads projected)
    (hhosts : loads.Pairwise fun l m => ¬ l.node.SharesDomain m.node hostnameLabel)
    (hrow : a.row ≠ b.row) :
    ¬ a.node.SharesDomain b.node hostnameLabel := by
  obtain ⟨ha, hsettled⟩ := a.exists_settled h
  obtain ⟨hb, hsettled'⟩ := b.exists_settled h
  rw [Seat.node, Seat.node, hsettled.node_eq, hsettled'.node_eq]
  rcases Nat.lt_or_gt_of_ne (Fin.val_ne_of_ne hrow) with hlt | hgt
  · exact List.pairwise_iff_getElem.1 hhosts _ _ ha hb hlt
  · exact fun hshared => List.pairwise_iff_getElem.1 hhosts _ _ hb ha hgt hshared.symm

end Seats

/-- **Where plans do separate their pods**: every node has a hostname domain of its own, and the
terms of the pods that were there before look no further than that. -/
theorem separated_of_hostname_terms {loads : List NodeLoad} {pods : List Pod} {plan : DrainPlan}
    (hhosts : loads.Pairwise fun l m => ¬ l.node.SharesDomain m.node hostnameLabel)
    (hterms : ∀ load ∈ loads, ∀ p ∈ load.pods, ∀ term ∈ p.antiAffinity,
      load.node.inDomain term.topologyKey →
      term.topologyKey = hostnameLabel)
    (h : DrainPlan.plan Fit.obstacle? loads pods = .ok plan) : Separated loads plan.projected := by
  have hsettled := forall₂_settled_projected h
  refine SeparatedUnseen.separated (fun a b hrow ha term => ?_) hsettled
  have hapart := Seat.not_sharesDomain hsettled hhosts hrow
  constructor
  · intro hkey hrepels
    exact hapart (hkey ▸ hrepels.domain)
  · intro hcase hrepels
    have hkey : term.topologyKey = hostnameLabel := by
      refine hcase.elim id fun hb => ?_
      obtain ⟨load, hload, hpod, hnode⟩ := Seat.pod_mem_of_not_isPlanned hb hsettled
      exact hterms load hload b.pod hpod term hrepels.mem (hnode ▸ hrepels.domain.inDomain_left)
    exact hapart (hkey ▸ hrepels.domain).symm

/-- **When a plan separates its pods.** A plan keeps every required anti-affinity term between its
pods and all others, across the whole array, exactly if it keeps those that the judge does not look
at: between different nodes, the hostname terms and the terms of pods that were there before. -/
theorem separated_projected_iff {loads : List NodeLoad} {pods : List Pod} {plan : DrainPlan}
    (h : DrainPlan.plan Fit.obstacle? loads pods = .ok plan) :
    Separated loads plan.projected ↔ SeparatedUnseen loads plan.projected := by
  constructor
  · intro hseparated a b hrow ha term
    have hab : a ≠ b := fun heq => hrow (heq ▸ rfl)
    obtain ⟨hown, hother⟩ := hseparated a b hab ha term
    exact ⟨fun _ => hown, fun _ => hother⟩
  · intro hunseen
    exact hunseen.separated (forall₂_settled_projected h)

/-- A term on the pods of a web server, over zones. -/
def webZoneTerm : PodAffinityTerm where
  selector := { labels := .ofList [("app", "web")] }
  topologyKey := "zone"

/-- A pod that keeps web servers out of its zone. -/
def zoneGuard : Pod where
  ns := "default"
  name := "guard"
  nodeName := some "spot-1"
  antiAffinity := [webZoneTerm]

/-- A web server. -/
def webServer : Pod where
  ns := "default"
  name := "web"
  labels := .ofList [("app", "web")]
  requests := { cpuMillis := 100 }

/-- Two nodes, the first in zone `a` with the guard. -/
def guardedZone (zone : String) : List NodeLoad :=
  [⟨(smallNode "spot-1").withLabel "zone" "a", [zoneGuard]⟩,
    ⟨(smallNode "spot-2").withLabel "zone" zone, []⟩]

/-- What a plan makes of them: the web server goes to the second node. -/
def guardedZoneProjected (zone : String) : List NodeLoad :=
  [⟨(smallNode "spot-1").withLabel "zone" "a", [zoneGuard]⟩,
    ⟨(smallNode "spot-2").withLabel "zone" zone, [webServer.boundTo "spot-2"]⟩]

/-- With the second node in a zone of its own, separation is what the judge leaves open. -/
theorem separated_iff_in_own_zone :
    DrainPlan.plan Fit.obstacle? (guardedZone "b") [webServer] =
        .ok ⟨[⟨"default/web", "spot-2"⟩], guardedZoneProjected "b"⟩ ∧
      (Separated (guardedZone "b") (guardedZoneProjected "b") ↔
        SeparatedUnseen (guardedZone "b") (guardedZoneProjected "b")) := by
  have hplan : DrainPlan.plan Fit.obstacle? (guardedZone "b") [webServer] =
      .ok ⟨[⟨"default/web", "spot-2"⟩], guardedZoneProjected "b"⟩ := by decide +kernel
  exact ⟨hplan, separated_projected_iff hplan⟩

/-- **A plan need not separate its pods.** The guard keeps web servers out of its zone, the judge
sees that on the guard's node only, and the plan puts the web server on the other node of the
zone. -/
theorem not_separated_in_shared_zone :
    DrainPlan.plan Fit.obstacle? (guardedZone "a") [webServer] =
        .ok ⟨[⟨"default/web", "spot-2"⟩], guardedZoneProjected "a"⟩ ∧
      ¬ Separated (guardedZone "a") (guardedZoneProjected "a") := by
  refine ⟨by decide +kernel, fun hseparated => ?_⟩
  let web : Seat (guardedZoneProjected "a") := ⟨⟨1, by decide⟩, ⟨0, by decide⟩⟩
  let guard : Seat (guardedZoneProjected "a") := ⟨⟨0, by decide⟩, ⟨0, by decide⟩⟩
  have hplanned : IsPlanned (guardedZone "a") web := ⟨_, rfl, Nat.le_refl 0⟩
  have hrepels : Repels guard web webZoneTerm :=
    ⟨List.mem_singleton.2 rfl, ⟨"a", by decide +kernel, by decide +kernel⟩, by decide +kernel⟩
  exact (hseparated web guard (by decide) hplanned webZoneTerm).2 hrepels

end DrainPlan

end SpotRebalance
