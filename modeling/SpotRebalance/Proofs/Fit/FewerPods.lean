import Mathlib.Algebra.Order.BigOperators.Group.List
import Mathlib.Algebra.Order.Group.Nat
import SpotRebalance.Proofs.Fit.ExactSums
import SpotRebalance.Proofs.Fit.Order

/-! # Fitting beside fewer pods

Pods that are taken off a node make room: what is left requests no more (`total_le_of_subperm`),
takes up fewer slots and ports, and keeps fewer pods away. They may also be the ones that another
pod must be near, and this is the only way in which taking pods off makes a node unfit
(`Fits.subperm_iff`). Since the order of the pods does not matter either, whether a pod fits depends
on which pods are on the node, how often, and on nothing else (`accepts_fewer`). -/

namespace SpotRebalance.Fit

variable {pod : Pod} {n : Node} {xs ys : List Pod}

/-- Every group that a pod must be near has one of some pods. -/
def HasNear (pod : Pod) (others : List Pod) : Prop :=
  ∀ term ∈ pod.affinity, ∃ p ∈ others, term.selects pod.ns p.ns p.labels

/-- A pod that must be near nobody has everyone near. -/
theorem hasNear_of_affinity_eq_nil (h : pod.affinity = []) (others : List Pod) :
    HasNear pod others := by
  simp [HasNear, h]

/-- **Fewer pods request no more.** -/
theorem total_le_of_subperm (h : ys.Subperm xs) (kind : ResourceKind) :
    total pod ⟨n, ys⟩ kind ≤ total pod ⟨n, xs⟩ kind := by
  obtain ⟨zs, hperm, hsublist⟩ := h
  have hsum :=
    (hsublist.map fun p => (p.requests.amount kind).val).sum_le_sum fun _ _ => Nat.zero_le _
  rw [(hperm.map _).sum_nat] at hsum
  exact Nat.add_le_add_right hsum _

/-- Resources that are enough beside some pods are enough beside fewer. -/
theorem fitsWithin_of_subperm (hsub : ys.Subperm xs)
    (h : (NodeLoad.sumRequests (xs ++ [pod])).fitsWithin n.allocatable) :
    (NodeLoad.sumRequests (ys ++ [pod])).fitsWithin n.allocatable := by
  have hmore : enoughResources pod ⟨n, xs⟩ = none := enoughResources_eq_none_iff.2 h
  rw [enoughResources_eq_none_iff_totals] at hmore
  have hfewer : enoughResources pod ⟨n, ys⟩ = none := by
    rw [enoughResources_eq_none_iff_totals]
    intro kind
    exact (hmore kind).imp_left (Nat.le_trans (total_le_of_subperm hsub kind))
  exact enoughResources_eq_none_iff.1 hfewer

/-- **When a pod that fits beside some pods fits beside fewer**: every group that it must be near
has one of those left. -/
theorem Fits.subperm_iff (hsub : ys.Subperm xs) (h : Fits pod ⟨n, xs⟩) :
    Fits pod ⟨n, ys⟩ ↔ HasNear pod ys := by
  constructor
  · intro hfewer term hterm
    exact (hfewer.near term hterm).2
  · intro hnear
    -- what is asked of every pod on the node is asked of fewer
    have hall {P : Pod → Prop} (hxs : ∀ p ∈ xs, P p) : ∀ p ∈ ys, P p :=
      fun p hp => hxs p (hsub.subset hp)
    refine { h with
      known_others := hall h.known_others, slot := ?_,
      resources := fitsWithin_of_subperm hsub h.resources, ports := hall h.ports, near := ?_,
      far := ?_, far_others := hall h.far_others }
    · intro hlimit
      exact Nat.lt_of_le_of_lt hsub.length_le (h.slot hlimit)
    · intro term hterm
      exact ⟨(h.near term hterm).1, hnear term hterm⟩
    · exact fun term hterm hdomain => hall (h.far term hterm hdomain)

/-- **Whether a pod fits depends on the pods on the node as a multiset, and fewer pods never stand
in the way.** The order of the pods does not matter. If the pod fits, and some of the others are
taken away, it fits exactly if every group that it must be near has one of those left; in particular
if it need not be near anybody. -/
theorem accepts_fewer (pod : Pod) (n : Node) (xs ys : List Pod) :
    (ys.Perm xs → (accepts obstacle? pod ⟨n, ys⟩ ↔ accepts obstacle? pod ⟨n, xs⟩)) ∧
      (ys.Sublist xs → accepts obstacle? pod ⟨n, xs⟩ →
        (pod.affinity = [] → accepts obstacle? pod ⟨n, ys⟩) ∧
          (accepts obstacle? pod ⟨n, ys⟩ ↔ HasNear pod ys)) := by
  constructor
  · intro hperm
    have hsame : NodeLoad.Rearranged ⟨n, ys⟩ ⟨n, xs⟩ := ⟨rfl, hperm⟩
    rw [hsame.accepts_eq pod]
  · intro hsublist hfits
    have hiff : accepts obstacle? pod ⟨n, ys⟩ ↔ HasNear pod ys := by
      rw [accepts_obstacle?_iff] at hfits ⊢
      exact hfits.subperm_iff hsublist.subperm
    exact ⟨fun hnobody => hiff.2 (hasNear_of_affinity_eq_nil hnobody ys), hiff⟩

/-- A web server with an amount of processor time. -/
def webServer (name : String) (cpu : Amount) : Pod where
  ns := "default"
  name := name
  labels := .ofList [("app", "web")]
  requests := { cpuMillis := cpu }

/-- A batch job that claims a port. -/
def batchJob : Pod where
  ns := "default"
  name := "batch"
  hostPorts := [⟨8080, "TCP", "0.0.0.0"⟩]

/-- A cache that must be on a host with a web server, and away from other caches. -/
def webCache : Pod where
  ns := "default"
  name := "cache"
  labels := .ofList [("app", "cache")]
  affinity := [{ selector := { labels := .ofList [("app", "web")] }, topologyKey := hostnameLabel }]
  antiAffinity :=
    [{ selector := { labels := .ofList [("app", "cache")] }, topologyKey := hostnameLabel }]

/-- A cache that fits beside two web servers and a batch job fits beside one of the servers, and not
beside the job alone. -/
theorem accepts_fewer_webCache :
    let n : Node := { name := "spot-1", allocatable := { cpuMillis := 1000 } }
    let xs := [webServer "a" 300, batchJob, webServer "b" 500]
    accepts obstacle? webCache ⟨n, xs⟩ ∧ accepts obstacle? webCache ⟨n, xs.reverse⟩ ∧
      accepts obstacle? webCache ⟨n, [webServer "b" 500]⟩ ∧
        ¬ accepts obstacle? webCache ⟨n, [batchJob]⟩ := by
  intro n xs
  have hfits : accepts obstacle? webCache ⟨n, xs⟩ := by decide +kernel
  refine ⟨hfits, ?_, ?_, ?_⟩
  · exact ((accepts_fewer webCache n xs xs.reverse).1 (List.reverse_perm xs)).2 hfits
  · have hsublist : [webServer "b" 500].Sublist xs :=
      List.sublist_append_right [webServer "a" 300, batchJob] _
    refine (((accepts_fewer webCache n xs _).2 hsublist hfits).2).2 ?_
    exact List.forall_mem_singleton.2 ⟨_, List.mem_singleton_self _, by decide +kernel⟩
  · have hsublist : [batchJob].Sublist xs := ((List.nil_sublist _).cons_cons _).cons _
    rw [((accepts_fewer webCache n xs _).2 hsublist hfits).2]
    intro hnear
    obtain ⟨p, hp, hselects⟩ := hnear _ (List.mem_singleton_self _)
    rw [List.mem_singleton.1 hp] at hselects
    revert hselects
    decide +kernel

end SpotRebalance.Fit
