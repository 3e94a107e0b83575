import Mathlib.Tactic.ByContra
import SpotRebalance.Manifest.Node
import SpotRebalance.Proofs.Fit.Conditions
import SpotRebalance.Proofs.Manifest.Unreadable

/-! # Capacities that cannot be read

What a node can allocate is read from a list of quantities, and a quantity that cannot be read
counts as zero. With nothing of a resource a node should still refuse every pod that it refused
before (`Node.KeepsRefusalsOf`). This is so of all resources but one: zero pod slots stand for a
node that does not limit them. A node whose slots cannot be read takes the pods that it refused for
want of a slot, and no others (`Node.obstacle?_eq_tooManyPods`). So it keeps its refusals exactly if
the quantity is not that of its slots, or it did not limit them before, or it is cordoned
(`NodeManifest.keepsRefusalsOf_iff`). -/

namespace SpotRebalance

/-! ## Nothing of a resource -/

/-- An amount that may be struck out gets no greater. -/
theorem Amount.ite_zero_le (p : Prop) [Decidable p] (a : Amount) : (if p then 0 else a) ≤ a := by
  split
  · exact Nat.zero_le _
  · exact Nat.le_refl _

/-- The resources with nothing of one of them. -/
def Resources.without (r : Resources) (name : String) : Resources where
  cpuMillis := if name = "cpu" then 0 else r.cpuMillis
  memoryBytes := if name = "memory" then 0 else r.memoryBytes
  pods := if name = "pods" then 0 else r.pods
  scalars := r.scalars.filterMap fun other amount => if other = name then none else some amount

namespace Resources

/-- A named resource that is struck out counts as zero. -/
theorem scalar_without (r : Resources) (name other : String) :
    (r.without name).scalar other = if other = name then 0 else r.scalar other := by
  rw [scalar, without, NameTable.get?_filterMap, scalar]
  cases r.scalars.get? other <;> by_cases hname : other = name <;> simp [hname]

/-- **What fits a capacity without a resource fits the whole capacity.** -/
theorem fitsWithin_of_without {needed capacity : Resources} {name : String}
    (h : needed.fitsWithin (capacity.without name)) : needed.fitsWithin capacity := by
  obtain ⟨hcpu, hmemory, hscalars⟩ := fitsWithin_iff.1 h
  refine fitsWithin_iff.2 ⟨?_, ?_, fun other amount hget => ?_⟩
  · exact Nat.le_trans hcpu (Amount.ite_zero_le ..)
  · exact Nat.le_trans hmemory (Amount.ite_zero_le ..)
  · have hscalar := hscalars other amount hget
    rw [scalar_without] at hscalar
    exact Nat.le_trans hscalar (Amount.ite_zero_le ..)

/-- A request for nothing fits every capacity. -/
theorem empty_fitsWithin (capacity : Resources) : ({} : Resources).fitsWithin capacity :=
  fitsWithin_iff.2 ⟨Nat.zero_le _, Nat.zero_le _, nofun⟩

end Resources

namespace ResourceList

variable {list : ResourceList} {name bad : String}

/-- A quantity that cannot be read has no amount, whatever it is a quantity of. -/
theorem amount?_eq_none (hbad : Quantity.ofText? bad = none) (other : String) :
    amount? other bad = none := by
  rw [amount?, amount, Quantity.ofText, hbad]
  rfl

/-- A quantity that cannot be read counts as zero, and the others as before. -/
theorem amountOf_insert (hbad : Quantity.ofText? bad = none) (other : String) :
    amountOf (list.insert name bad) other = if name = other then 0 else list.amountOf other := by
  rw [amountOf, NameTable.get?_insert]
  by_cases hname : name = other
  · rw [if_pos hname.symm, if_pos hname, Option.bind_some, amount?_eq_none hbad]
    rfl
  · rw [if_neg (Ne.symm hname), if_neg hname, amountOf]

/-- **A list in which a quantity cannot be read** offers nothing of its resource. -/
theorem readable_insert (hbad : Quantity.ofText? bad = none) :
    readable (list.insert name bad) = list.readable.without name := by
  ext1
  · exact amountOf_insert hbad "cpu"
  · exact amountOf_insert hbad "memory"
  · exact amountOf_insert hbad "pods"
  · refine NameTable.ext_get? fun other => ?_
    simp only [readable, Resources.without, NameTable.get?_filterMap, NameTable.get?_insert]
    by_cases hname : other = name
    · simp [hname, amount?_eq_none hbad]
    · simp [hname]

end ResourceList

/-! ## Nodes without a resource -/

/-- The node with nothing of a resource. -/
def Node.without (n : Node) (name : String) : Node :=
  { n with allocatable := n.allocatable.without name }

/-- **A node keeps the refusals of another**: what does not fit the other beside some pods, does not
fit it either. -/
def Node.KeepsRefusalsOf (n other : Node) : Prop :=
  ∀ pods pod, ¬ Fit.accepts Fit.obstacle? pod ⟨other, pods⟩ →
    ¬ Fit.accepts Fit.obstacle? pod ⟨n, pods⟩

section Without

variable {n : Node} {name : String} {pods : List Pod} {pod : Pod}

/-- **What fits a node without a resource** fits the whole node, if it has a slot free there. -/
theorem Fit.Fits.of_without (h : Fits pod ⟨n.without name, pods⟩)
    (hslot : 0 < n.allocatable.pods.val → pods.length < n.allocatable.pods.val) :
    Fits pod ⟨n, pods⟩ :=
  { h with slot := hslot, resources := Resources.fitsWithin_of_without h.resources }

/-- **What is refused by a node and fits it without a resource** was refused because all slots are
taken, and the resource are the slots. -/
theorem Node.obstacle?_eq_tooManyPods (hrefused : ¬ Fit.accepts Fit.obstacle? pod ⟨n, pods⟩)
    (hfits : Fit.accepts Fit.obstacle? pod ⟨n.without name, pods⟩) :
    name = "pods" ∧ Fit.obstacle? pod ⟨n, pods⟩ =
      some (.tooManyPods pods.length n.allocatable.pods.val) := by
  rw [Fit.accepts_obstacle?_iff] at hrefused hfits
  have hfull : 0 < n.allocatable.pods.val ∧ n.allocatable.pods.val ≤ pods.length := by
    by_contra hfree
    exact hrefused (hfits.of_without fun hlimit => by omega)
  constructor
  · -- if the slots were left alone, one would be free
    by_contra hname
    have hslot := hfits.slot
    simp only [Node.without, Resources.without, if_neg hname] at hslot
    have hfree := hslot hfull.1
    omega
  · -- the predicates that come before the slots do not look at the allocatable list
    have hunbound : Fit.unboundPod pod ⟨n, pods⟩ = none :=
      Fit.unboundPod_eq_none_iff.2 hfits.unbound
    have hopen : Fit.schedulableNode pod ⟨n, pods⟩ = none :=
      Fit.schedulableNode_eq_none_iff.2 hfits.schedulable
    have hknown : Fit.knownRequests pod ⟨n, pods⟩ = none :=
      Fit.knownRequests_eq_none_iff.2 ⟨hfits.known, hfits.known_others⟩
    have hslots : Fit.freeSlot pod ⟨n, pods⟩ =
        some (.tooManyPods pods.length n.allocatable.pods.val) := if_pos hfull
    rw [Fit.obstacle?, Fit.predicates, List.findSome?_cons, hunbound, List.findSome?_cons, hopen,
      List.findSome?_cons, hknown, List.findSome?_cons, hslots]

end Without

/-! ## Nodes full of undemanding pods -/

/-- A pod that asks for nothing and tolerates everything. -/
def undemanding : Pod where
  ns := "default"
  name := "undemanding"
  tolerations := [{ operator := .anyValue }]

/-- Such a pod tolerates every taint. -/
theorem not_isUntolerated_undemanding (taint : Taint) :
    Fit.isUntolerated undemanding taint = false := by
  simp [Fit.isUntolerated, undemanding, Toleration.tolerates, Toleration.coversEffect,
    Toleration.coversKey]

/-- Any number of such pods request nothing together. -/
theorem sumRequests_replicate_undemanding (k : Nat) :
    NodeLoad.sumRequests (List.replicate k undemanding) = {} := by
  induction k with
  | zero => rfl
  | succ k ih =>
    rw [List.replicate_succ', NodeLoad.sumRequests_append_singleton, ih]
    rfl

/-- **Such a pod fits beside any number of its kind**, if the node is not cordoned and a slot is
free. -/
theorem fits_undemanding {n : Node} {k : Nat} (hopen : n.unschedulable = false)
    (hslot : 0 < n.allocatable.pods.val → k < n.allocatable.pods.val) :
    Fit.Fits undemanding ⟨n, List.replicate k undemanding⟩ := by
  have hall {P : Pod → Prop} (h : P undemanding) : ∀ p ∈ List.replicate k undemanding, P p := by
    intro p hp
    rw [List.eq_of_mem_replicate hp]
    exact h
  refine {
    unbound := rfl, schedulable := hopen, known := rfl, known_others := hall rfl, slot := ?_,
    resources := ?_, selector := nofun, affinity := rfl,
    tolerated := fun taint _ => not_isUntolerated_undemanding taint, ports := hall nofun,
    near := nofun, far := nofun, far_others := hall nofun, verifiable := nofun }
  · rwa [List.length_replicate]
  · rw [← List.replicate_succ', sumRequests_replicate_undemanding]
    exact Resources.empty_fitsWithin _

/-! ## Manifests of nodes -/

/-- The manifest with a quantity in its allocatable list. -/
def NodeManifest.withQuantity (m : NodeManifest) (name text : String) : NodeManifest :=
  { m with allocatable := m.allocatable.insert name text }

/-- A manifest in which a quantity cannot be read stands for a node without the resource. -/
theorem NodeManifest.toNode?_withQuantity {m : NodeManifest} {name bad : String} {node : Node}
    (hbad : Quantity.ofText? bad = none) (hnode : m.toNode? = some node) :
    (m.withQuantity name bad).toNode? = some (node.without name) := by
  obtain ⟨key, hkey, rfl⟩ := Option.map_eq_some_iff.1 hnode
  rw [toNode?, withQuantity, hkey, Option.map_some, ResourceList.readable_insert hbad]
  rfl

/-- **When a node keeps its refusals though a quantity cannot be read.** It does exactly if the
quantity is not that of its pod slots, or it did not limit them before, or it is cordoned. -/
theorem NodeManifest.keepsRefusalsOf_iff (m : NodeManifest) (name bad : String) {node spoilt : Node}
    (hbad : Quantity.ofText? bad = none) (hnode : m.toNode? = some node)
    (hspoilt : (m.withQuantity name bad).toNode? = some spoilt) :
    spoilt.KeepsRefusalsOf node ↔ name ≠ "pods" ∨ node.allocatable.pods.val = 0 ∨
      node.unschedulable = true := by
  obtain rfl : node.without name = spoilt :=
    Option.some.inj ((toNode?_withQuantity hbad hnode).symm.trans hspoilt)
  constructor
  · intro hkeeps
    by_contra! hcase
    obtain ⟨rfl, hlimit, hopen⟩ := hcase
    rw [ne_eq, Bool.not_eq_true] at hopen
    -- as many undemanding pods as there are slots, and one more
    have hfits : Fit.Fits undemanding ⟨node.without "pods",
        List.replicate node.allocatable.pods.val undemanding⟩ :=
      fits_undemanding hopen fun hslots => absurd hslots (by simp [Node.without, Resources.without])
    refine hkeeps _ _ (fun haccepts => ?_) (Fit.accepts_obstacle?_iff.2 hfits)
    have hslot := (Fit.accepts_obstacle?_iff.1 haccepts).slot (Nat.pos_of_ne_zero hlimit)
    rw [List.length_replicate] at hslot
    exact Nat.lt_irrefl _ hslot
  · intro hcase pods pod hrefused haccepts
    obtain ⟨hname, hobstacle⟩ := Node.obstacle?_eq_tooManyPods hrefused haccepts
    have hfits := Fit.accepts_obstacle?_iff.1 haccepts
    rcases hcase with hother | hunlimited | hcordoned
    · exact hother hname
    · -- a node without a limit is never full
      refine hrefused (Fit.accepts_obstacle?_iff.2 (hfits.of_without fun hlimit => ?_))
      rw [hunlimited] at hlimit
      cases hlimit
    · have hopen : node.unschedulable = false := hfits.schedulable
      rw [hcordoned] at hopen
      cases hopen

/-- A spot node with a number of pod slots. -/
def spotWithSlots (slots : String) : NodeManifest where
  metadata := { name := some "spot-1" }
  allocatable := .ofList [("cpu", "4"), ("memory", "8Gi"), ("pods", slots), ("nvidia.com/gpu", "1")]

/-- Without its graphics processor, whose number cannot be read, the node keeps its refusals. -/
theorem keepsRefusalsOf_unreadable_scalar :
    Quantity.ofText? "one" = none ∧ ∃ node spoilt, (spotWithSlots "1").toNode? = some node ∧
      ((spotWithSlots "1").withQuantity "nvidia.com/gpu" "one").toNode? = some spoilt ∧
        spoilt.KeepsRefusalsOf node := by
  have hbad : Quantity.ofText? "one" = none := by decide
  refine ⟨hbad, _, _, rfl, rfl, ?_⟩
  exact (NodeManifest.keepsRefusalsOf_iff (spotWithSlots "1") "nvidia.com/gpu" "one" hbad rfl rfl).2
    (Or.inl (by decide))

/-- **Slots that cannot be read let a pod in.** The node has one slot and a pod in it, and takes no
other. With a number of slots that cannot be read it does. -/
theorem not_keepsRefusalsOf_unreadable_slots :
    Quantity.ofText? "1.2.3" = none ∧ ∃ node spoilt, (spotWithSlots "1").toNode? = some node ∧
      ((spotWithSlots "1").withQuantity "pods" "1.2.3").toNode? = some spoilt ∧
      ¬ Fit.accepts Fit.obstacle? undemanding ⟨node, [undemanding]⟩ ∧
      Fit.accepts Fit.obstacle? undemanding ⟨spoilt, [undemanding]⟩ ∧
      ¬ spoilt.KeepsRefusalsOf node := by
  refine ⟨by decide, _, _, rfl, rfl, by decide +kernel, by decide +kernel, fun hkeeps => ?_⟩
  exact hkeeps [undemanding] undemanding (by decide +kernel) (by decide +kernel)

end SpotRebalance
