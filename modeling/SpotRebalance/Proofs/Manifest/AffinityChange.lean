import SpotRebalance.Proofs.Manifest.Affinity
import SpotRebalance.Proofs.Rebalancer.Drainable

/-! # Pods with other affinities

Manifests that differ in their affinities stand for pods that do (`PodManifest.Changed`,
`Pod.withAffinities`). What else is asked of a pod is the same: with other affinities it fits where
it did exactly if these are met there (`AffinityManifest.MetOn`, `Fit.Fits.withAffinities_iff`),
another pod fits beside it exactly if none of its groups that must be far keeps the other off
(`AffinityTermManifest.KeepsOff`, `Fit.Fits.beside_withAffinities_iff`), and it may be evicted as
before (`Relocation.isOk_podsToMove_withAffinities`). -/

namespace SpotRebalance

/-! ## Manifests and their pods -/

/-- The manifest with other affinities. -/
def PodManifest.withAffinity (m : PodManifest) (a : AffinityManifest) : PodManifest :=
  { m with spec := m.spec.map fun spec => { spec with affinity := a } }

/-- **The affinities of a manifest are changed**, and nothing else. -/
def PodManifest.Changed (R : AffinityManifest → AffinityManifest → Prop) (m m' : PodManifest) :
    Prop :=
  ∃ a a', m.spec.map (·.affinity) = some a ∧ R a a' ∧ m' = m.withAffinity a'

/-- The pod with the affinities of a manifest. -/
def Pod.withAffinities (p : Pod) (a : AffinityManifest) : Pod :=
  { p with
    nodeAffinity := ⟨a.nodeTerms.map (·.toTerm)⟩
    affinity := a.near.filterMap (·.toTerm?)
    antiAffinity := a.far.filterMap (·.toTerm?) }

/-- **Manifests that differ in their affinities** stand for pods that do. -/
theorem PodManifest.Changed.exists_withAffinities {R : AffinityManifest → AffinityManifest → Prop}
    {m m' : PodManifest} {pod pod' : Pod} (h : m.Changed R m') (hpod : m.toPod? = some pod)
    (hpod' : m'.toPod? = some pod') :
    ∃ p a a', R a a' ∧ pod = Pod.withAffinities p a ∧ pod' = p.withAffinities a' := by
  obtain ⟨a, a', ha, hR, rfl⟩ := h
  obtain ⟨spec, hspec, rfl⟩ := Option.map_eq_some_iff.1 ha
  obtain ⟨name, hname, rfl⟩ := Option.map_eq_some_iff.1 hpod
  obtain ⟨name', hname', rfl⟩ := Option.map_eq_some_iff.1 hpod'
  obtain rfl : name = name' := Option.some.inj (hname.symm.trans hname')
  refine ⟨PodManifest.withSpec (m.withoutSpec name) spec, _, a', hR, ?_, ?_⟩
  · rw [hspec]
    rfl
  · simp only [withAffinity, hspec]
    rfl

/-! ## Affinities on a node -/

/-- **A term keeps a pod off a node** on which its owner is. -/
structure AffinityTermManifest.KeepsOff (t : AffinityTermManifest) (owner : String) (node : Node)
    (p : Pod) : Prop where
  /-- The node has a domain under the key of the term. -/
  domain : node.inDomain t.topologyKey
  /-- The term selects the pod. -/
  selects : t.Selects owner p.ns p.labels

/-- **The affinities of an owner are met on a node.** Terms without a selector are left out. -/
structure AffinityManifest.MetOn (a : AffinityManifest) (owner : String)
    (load : NodeLoad) : Prop where
  /-- A node term accepts the node, if there are any. -/
  nodes : NodeAffinity.accepts ⟨a.nodeTerms.map (·.toTerm)⟩ load.node.labels
  /-- Every group that must be near has a pod on the node. -/
  near : ∀ t ∈ a.near, t.selector.isSome → t.GrantedOn owner load
  /-- No pod on the node is in a group that must be far. -/
  far : ∀ t ∈ a.far, t.selector.isSome → ¬ ∃ q ∈ load.pods, t.KeepsOff owner load.node q
  /-- No group must be far in a domain wider than the node. -/
  verifiable : ∀ t ∈ a.far, t.selector.isSome → load.node.inDomain t.topologyKey →
    t.topologyKey = hostnameLabel

/-- The terms that are kept, in the words of the manifest. -/
theorem AffinityTermManifest.forall_mem_filterMap_iff {ts : List AffinityTermManifest}
    {P : PodAffinityTerm → Prop} {Q : AffinityTermManifest → Prop}
    (h : ∀ t term, t.toTerm? = some term → (P term ↔ Q t)) :
    (∀ term ∈ ts.filterMap (·.toTerm?), P term) ↔ ∀ t ∈ ts, t.selector.isSome → Q t := by
  constructor
  · intro hall t ht hsome
    obtain ⟨s, hs⟩ := Option.isSome_iff_exists.1 hsome
    have hterm : t.toTerm? = some ⟨s.toSelector, t.topologyKey, t.namespaces⟩ := by
      rw [toTerm?, hs]
      rfl
    exact (h t _ hterm).1 (hall _ (List.mem_filterMap.2 ⟨t, ht, hterm⟩))
  · intro hall term hmem
    obtain ⟨t, ht, hterm⟩ := List.mem_filterMap.1 hmem
    obtain ⟨s, hs, -⟩ := Option.map_eq_some_iff.1 hterm
    exact (h t term hterm).2 (hall t ht (Option.isSome_iff_exists.2 ⟨s, hs⟩))

section Affinities

variable {p other : Pod} {a a' : AffinityManifest} {load : NodeLoad} {node : Node}
  {before after : List Pod} {budgets : List DisruptionBudget}

/-- **What the affinities of a pod add to the other conditions.** A pod that fits a node with some
affinities, fits it with others if these are met there. -/
theorem Fit.Fits.withAffinities_iff (h : Fits p.unbound load) :
    Fits (p.withAffinities a).unbound load ↔ a.MetOn p.ns load := by
  have hnear : (∀ term ∈ (p.withAffinities a).affinity, load.node.inDomain term.topologyKey ∧
      ∃ q ∈ load.pods, term.selects p.ns q.ns q.labels) ↔ ∀ t ∈ a.near, t.selector.isSome →
        t.GrantedOn p.ns load := by
    refine AffinityTermManifest.forall_mem_filterMap_iff fun t term hterm => ?_
    simp only [AffinityTermManifest.topologyKey_eq hterm, AffinityTermManifest.selects_iff hterm]
    exact ⟨fun hgranted => ⟨hgranted.1, hgranted.2⟩, fun hgranted =>
      ⟨hgranted.domain, hgranted.selected⟩⟩
  have hfar : (∀ term ∈ (p.withAffinities a).antiAffinity, load.node.inDomain term.topologyKey →
      ∀ q ∈ load.pods, term.selects p.ns q.ns q.labels = false) ↔
      ∀ t ∈ a.far, t.selector.isSome → ¬ ∃ q ∈ load.pods, t.KeepsOff p.ns load.node q := by
    refine AffinityTermManifest.forall_mem_filterMap_iff fun t term hterm => ?_
    simp only [AffinityTermManifest.topologyKey_eq hterm, ← Bool.not_eq_true,
      AffinityTermManifest.selects_iff hterm]
    exact ⟨fun hclear ⟨q, hq, hkeeps⟩ => hclear hkeeps.domain q hq hkeeps.selects,
      fun hclear hdomain q hq hselects => hclear ⟨q, hq, hdomain, hselects⟩⟩
  have hverifiable :
      (∀ term ∈ (p.withAffinities a).antiAffinity, load.node.inDomain term.topologyKey →
      term.topologyKey = hostnameLabel) ↔
      ∀ t ∈ a.far, t.selector.isSome → load.node.inDomain t.topologyKey →
      t.topologyKey = hostnameLabel :=
    AffinityTermManifest.forall_mem_filterMap_iff fun t term hterm => by
      rw [AffinityTermManifest.topologyKey_eq hterm]
  constructor
  · intro h'
    exact ⟨h'.affinity, hnear.1 h'.near, hfar.1 h'.far, hverifiable.1 h'.verifiable⟩
  · intro hmet
    have hresources := h.resources
    rw [NodeLoad.sumRequests_append_singleton] at hresources
    refine { h with
      resources := ?_, affinity := hmet.nodes, near := hnear.2 hmet.near, far := hfar.2 hmet.far,
      verifiable := hverifiable.2 hmet.verifiable }
    rwa [NodeLoad.sumRequests_append_singleton]

/-- Affinities that are met where others are, under one more condition, fit where the others do,
under that condition. -/
theorem Fit.accepts_withAffinities_iff {C : Prop} (h : a'.MetOn p.ns load ↔ a.MetOn p.ns load ∧ C) :
    accepts obstacle? (p.withAffinities a').unbound load ↔
      accepts obstacle? (p.withAffinities a).unbound load ∧ C := by
  simp only [accepts_obstacle?_iff]
  constructor
  · intro hfits
    obtain ⟨hmet, hC⟩ := h.1 (hfits.withAffinities_iff.1 hfits)
    exact ⟨hfits.withAffinities_iff.2 hmet, hC⟩
  · rintro ⟨hfits, hC⟩
    exact hfits.withAffinities_iff.2 (h.2 ⟨hfits.withAffinities_iff.1 hfits, hC⟩)

/-- Affinities do not change what the pods of a node request. -/
theorem NodeLoad.sumRequests_withAffinities :
    sumRequests (before ++ p.withAffinities a :: after) = sumRequests (before ++ p :: after) := by
  simp only [sumRequests, List.foldl_append, List.foldl_cons]
  rfl

/-- **What the affinities of a pod ask of others**: a pod that fits beside it with some affinities,
fits beside it with others if none of its terms keeps the pod off. -/
theorem Fit.Fits.beside_withAffinities_iff (h : Fits other ⟨node, before ++ p :: after⟩) :
    Fits other ⟨node, before ++ p.withAffinities a :: after⟩ ↔
      ∀ t ∈ a.far, t.selector.isSome → ¬ t.KeepsOff p.ns node other := by
  have hfar : (∀ term ∈ (p.withAffinities a).antiAffinity, node.inDomain term.topologyKey →
      term.selects p.ns other.ns other.labels = false) ↔
      ∀ t ∈ a.far, t.selector.isSome → ¬ t.KeepsOff p.ns node other := by
    refine AffinityTermManifest.forall_mem_filterMap_iff fun t term hterm => ?_
    rw [AffinityTermManifest.topologyKey_eq hterm, ← Bool.not_eq_true,
      AffinityTermManifest.selects_iff hterm]
    exact ⟨fun hclear hkeeps => hclear hkeeps.domain hkeeps.selects,
      fun hclear hdomain hselects => hclear ⟨hdomain, hselects⟩⟩
  -- what is asked of every pod on the node and does not concern affinities is asked of the same
  -- pods
  have hall {P : Pod → Prop} (hp : P p → P (p.withAffinities a))
      (hbefore : ∀ q ∈ before ++ p :: after, P q) :
      ∀ q ∈ before ++ p.withAffinities a :: after, P q := by
    simp only [List.forall_mem_append, List.forall_mem_cons] at hbefore ⊢
    exact ⟨hbefore.1, hp hbefore.2.1, hbefore.2.2⟩
  rw [← hfar]
  constructor
  · intro h'
    exact h'.far_others _ (by simp)
  · intro hclear
    refine { h with
      known_others := hall id h.known_others, slot := fun hlimit => ?_, resources := ?_,
      ports := hall id h.ports, near := fun term hterm => ?_, far := fun term hterm hdomain => ?_,
      far_others := hall (fun _ => hclear) h.far_others }
    · have hslot := h.slot hlimit
      rwa [List.length_append, List.length_cons] at hslot ⊢
    · have hresources := h.resources
      rw [NodeLoad.sumRequests_append_singleton] at hresources ⊢
      rwa [NodeLoad.sumRequests_withAffinities]
    · obtain ⟨hdomain, q, hq, hselects⟩ := h.near term hterm
      refine ⟨hdomain, ?_⟩
      rcases List.mem_append.1 hq with hq | hq
      · exact ⟨q, by simp [hq], hselects⟩
      · rcases List.mem_cons.1 hq with rfl | hq
        · exact ⟨q.withAffinities a, by simp, hselects⟩
        · exact ⟨q, by simp [hq], hselects⟩
    · exact hall id (h.far term hterm hdomain)

/-- Affinities that keep off whom others keep off, and whoever fails one more condition, let fit
beside them whom the others let fit, under that condition. -/
theorem Fit.accepts_beside_iff {C : Prop}
    (h : (∀ t ∈ a'.far, t.selector.isSome → ¬ t.KeepsOff p.ns node other) ↔
      (∀ t ∈ a.far, t.selector.isSome → ¬ t.KeepsOff p.ns node other) ∧ C) :
    accepts obstacle? other ⟨node, before ++ p.withAffinities a' :: after⟩ ↔
      accepts obstacle? other ⟨node, before ++ p.withAffinities a :: after⟩ ∧ C := by
  simp only [accepts_obstacle?_iff]
  constructor
  · intro hfits
    obtain ⟨hclear, hC⟩ := h.1 (hfits.beside_withAffinities_iff.1 hfits)
    exact ⟨hfits.beside_withAffinities_iff.2 hclear, hC⟩
  · rintro ⟨hfits, hC⟩
    exact hfits.beside_withAffinities_iff.2 (h.2 ⟨hfits.beside_withAffinities_iff.1 hfits, hC⟩)

/-- Affinities have no part in evictions. -/
theorem Relocation.isOk_podsToMove_withAffinities :
    (podsToMove (before ++ p.withAffinities a' :: after) budgets).isOk ↔
      (podsToMove (before ++ p.withAffinities a :: after) budgets).isOk := by
  have hevictable : (p.withAffinities a').Evictable budgets ↔
      (p.withAffinities a).Evictable budgets :=
    ⟨fun h => ⟨h.managed, h.affordable⟩, fun h => ⟨h.managed, h.affordable⟩⟩
  have hrelocatable : (p.withAffinities a').isRelocatable = (p.withAffinities a).isRelocatable :=
    rfl
  simp only [isOk_podsToMove_iff, List.forall_mem_append, List.forall_mem_cons, hevictable,
    hrelocatable]

end Affinities

end SpotRebalance
