import SpotRebalance.Manifest.Pod
import SpotRebalance.Proofs.Fit.Conditions

/-! # What affinity terms ask for

The selectors of a manifest mean what the API says they do: an expression holds of labels if its
operator is known and the labels meet it (`ExpressionManifest.Holds`), and a term selects the pods
of its namespaces whose labels meet its selector; without a selector it selects none
(`AffinityTermManifest.Selects`). Reading a manifest keeps the meaning of every term that has a
selector (`AffinityTermManifest.selects_iff`).

A term without one is left out. That is right where pods must be apart, for nobody is to be kept
away. Where pods must be near, the term can never be granted, and leaving it out grants it. So of a
pod that fits a node each term is granted there exactly if it has a selector
(`PodManifest.grantedOn_iff`). -/

namespace SpotRebalance

/-! ## The meaning of selectors -/

/-- **Labels meet an expression**: its operator is known, and they meet the requirement with it. -/
def ExpressionManifest.Holds (e : ExpressionManifest) (labels : Labels) : Prop :=
  ∃ operator, SelectorOperator.ofName? e.operator = some operator ∧
    (Requirement.mk e.key operator e.values).accepts labels

/-- **Labels meet a selector**: they have its labels and meet all its expressions. -/
structure SelectorManifest.Holds (s : SelectorManifest) (labels : Labels) : Prop where
  /-- They have its labels. -/
  matchLabels : ∀ key value, s.labels.get? key = some value → labels.get? key = some value
  /-- They meet all its expressions. -/
  expressions : ∀ e ∈ s.expressions, e.Holds labels

/-- **A term of an owner selects a pod** of the given namespace and labels. -/
structure AffinityTermManifest.Selects (t : AffinityTermManifest) (owner ns : String)
    (labels : Labels) : Prop where
  /-- The pod is in one of the namespaces of the term, or in that of the owner if it lists none. -/
  inScope : ns ∈ t.namespaces ∨ t.namespaces = [] ∧ ns = owner
  /-- The term has a selector, and the labels meet it. -/
  selector : ∃ s, t.selector = some s ∧ s.Holds labels

/-- **A term is granted on a node**: the node has a domain under its key, and on it is a pod that
the term selects. -/
structure AffinityTermManifest.GrantedOn (t : AffinityTermManifest) (owner : String)
    (load : NodeLoad) : Prop where
  /-- The node has a domain under the key of the term. -/
  domain : load.node.inDomain t.topologyKey
  /-- A pod on the node is selected. -/
  selected : ∃ p ∈ load.pods, t.Selects owner p.ns p.labels

/-! ## Reading keeps the meaning -/

section Reading

variable {labels : Labels}

/-- The requirement of an expression accepts what meets the expression. -/
theorem ExpressionManifest.accepts_toRequirement_iff {e : ExpressionManifest} :
    e.toRequirement.accepts labels ↔ e.Holds labels := by
  rw [toRequirement, Holds]
  cases SelectorOperator.ofName? e.operator with
  | none =>
    -- a label among no values
    cases hlabel : labels.get? e.key <;> simp [Requirement.accepts, hlabel]
  | some operator => simp

/-- The selector accepts what meets the selector of the manifest. -/
theorem SelectorManifest.accepts_toSelector_iff {s : SelectorManifest} :
    s.toSelector.accepts labels ↔ s.Holds labels := by
  rw [LabelSelector.accepts_iff]
  constructor
  · rintro ⟨hlabels, hrequirements⟩
    refine ⟨hlabels, fun e he => ?_⟩
    exact ExpressionManifest.accepts_toRequirement_iff.1 (hrequirements _ (List.mem_map_of_mem he))
  · rintro ⟨hlabels, hexpressions⟩
    refine ⟨hlabels, fun r hr => ?_⟩
    obtain ⟨e, he, rfl⟩ := List.mem_map.1 hr
    exact ExpressionManifest.accepts_toRequirement_iff.2 (hexpressions e he)

/-- The labels of a pod that a term selects meet the selector of the term. -/
theorem AffinityTermManifest.Selects.holds {t : AffinityTermManifest} {owner ns : String}
    (h : t.Selects owner ns labels) {s : SelectorManifest} (hs : t.selector = some s) :
    s.Holds labels := by
  obtain ⟨s', hs', hholds⟩ := h.selector
  rw [hs] at hs'
  cases hs'
  exact hholds

/-- **A term that is kept selects the same pods** as the term of the manifest. -/
theorem AffinityTermManifest.selects_iff {t : AffinityTermManifest} {term : PodAffinityTerm}
    (hterm : t.toTerm? = some term) {owner ns : String} :
    term.selects owner ns labels ↔ t.Selects owner ns labels := by
  obtain ⟨s, hs, rfl⟩ := Option.map_eq_some_iff.1 hterm
  rw [PodAffinityTerm.selects, Bool.and_eq_true, SelectorManifest.accepts_toSelector_iff]
  have hscope : (if t.namespaces.isEmpty then ns == owner else t.namespaces.contains ns) = true ↔
      ns ∈ t.namespaces ∨ t.namespaces = [] ∧ ns = owner := by
    cases t.namespaces <;> simp
  constructor
  · rintro ⟨hin, hholds⟩
    exact ⟨hscope.1 hin, s, hs, hholds⟩
  · intro hselects
    exact ⟨hscope.2 hselects.inScope, hselects.holds hs⟩

/-- A term that is kept has the key of the term of the manifest. -/
theorem AffinityTermManifest.topologyKey_eq {t : AffinityTermManifest} {term : PodAffinityTerm}
    (hterm : t.toTerm? = some term) : term.topologyKey = t.topologyKey := by
  obtain ⟨s, -, rfl⟩ := Option.map_eq_some_iff.1 hterm
  rfl

end Reading

/-! ## Terms that must be near -/

/-- A term without a selector is granted nowhere. -/
theorem AffinityTermManifest.GrantedOn.selector_isSome {t : AffinityTermManifest} {owner : String}
    {load : NodeLoad} (h : t.GrantedOn owner load) : t.selector.isSome := by
  obtain ⟨p, -, hselects⟩ := h.selected
  obtain ⟨s, hs, -⟩ := hselects.selector
  exact Option.isSome_of_eq_some hs

/-- What a pod wants near is read from the terms of its manifest. -/
theorem PodManifest.affinity_eq {m : PodManifest} {spec : PodSpecManifest} {pod : Pod}
    (hspec : m.spec = some spec) (hpod : m.toPod? = some pod) :
    pod.affinity = spec.affinity.near.filterMap (·.toTerm?) := by
  obtain ⟨name, -, rfl⟩ := Option.map_eq_some_iff.1 hpod
  rw [hspec]
  rfl

/-- **What is granted to a pod that fits.** If a pod, unbound, fits a node, then of the terms that
its manifest requires to be near exactly those with a selector are granted there. -/
theorem PodManifest.grantedOn_iff {m : PodManifest} {spec : PodSpecManifest} {pod : Pod}
    {load : NodeLoad} (hspec : m.spec = some spec) (hpod : m.toPod? = some pod)
    (hfits : Fit.accepts Fit.obstacle? pod.unbound load) :
    ∀ t ∈ spec.affinity.near, (t.GrantedOn pod.ns load ↔ t.selector.isSome) := by
  intro t ht
  refine ⟨AffinityTermManifest.GrantedOn.selector_isSome, fun hselector => ?_⟩
  obtain ⟨s, hs⟩ := Option.isSome_iff_exists.1 hselector
  have hterm : t.toTerm? = some ⟨s.toSelector, t.topologyKey, t.namespaces⟩ := by
    rw [AffinityTermManifest.toTerm?, hs]
    rfl
  -- the term was kept, and so it was judged
  have hkept : ⟨s.toSelector, t.topologyKey, t.namespaces⟩ ∈ pod.affinity := by
    rw [affinity_eq hspec hpod]
    exact List.mem_filterMap.2 ⟨t, ht, hterm⟩
  obtain ⟨hdomain, p, hp, hselects⟩ := (Fit.accepts_obstacle?_iff.1 hfits).near _ hkept
  exact ⟨hdomain, p, hp, (AffinityTermManifest.selects_iff hterm).1 hselects⟩

/-- A term for the web servers of the host. -/
def nearWeb : AffinityTermManifest where
  selector :=
    some {
      labels := .ofList [("app", "web")], expressions := [{ key := "app", operator := "Exists" }] }
  topologyKey := hostnameLabel

/-- A term for the host that selects no pods. -/
def nearNobody : AffinityTermManifest where
  topologyKey := hostnameLabel

/-- A cache that wants to be near some groups of pods. -/
def cacheNear (terms : List AffinityTermManifest) : PodManifest where
  metadata := { name := some "cache" }
  spec := some { affinity := { near := terms } }

/-- A node with a web server. -/
def webHost : NodeLoad where
  node := { name := "spot-1" }
  pods := [{ ns := "default", name := "web", labels := .ofList [("app", "web")] }]

/-- Beside a web server, the wish for one is granted and the wish for nobody is not, and both are as
they should be. -/
theorem grantedOn_iff_beside_web :
    ∃ pod, (cacheNear [nearWeb, nearNobody]).toPod? = some pod ∧
      Fit.accepts Fit.obstacle? pod.unbound webHost ∧
      nearWeb.GrantedOn "default" webHost ∧ ¬ nearNobody.GrantedOn "default" webHost := by
  have hfits : ∀ pod, (cacheNear [nearWeb, nearNobody]).toPod? = some pod →
      Fit.accepts Fit.obstacle? pod.unbound webHost := by
    rintro pod ⟨⟩
    decide +kernel
  have hgranted :=
    PodManifest.grantedOn_iff (m := cacheNear [nearWeb, nearNobody]) rfl rfl (hfits _ rfl)
  refine ⟨_, rfl, hfits _ rfl, (hgranted nearWeb (.head _)).2 rfl, fun hnobody => ?_⟩
  cases (hgranted nearNobody (.tail _ (.head _))).1 hnobody

/-- **A term without a selector is waived.** The cache must be near a group without pods, and fits a
node without pods. -/
theorem not_grantedOn_of_fits :
    ∃ pod load, (cacheNear [nearNobody]).toPod? = some pod ∧
      Fit.accepts Fit.obstacle? pod.unbound load ∧
      nearNobody.selector = none ∧ ¬ nearNobody.GrantedOn pod.ns load := by
  refine ⟨_, ⟨{ name := "spot-1" }, []⟩, rfl, by decide +kernel, rfl, fun hgranted => ?_⟩
  cases hgranted.selector_isSome

end SpotRebalance
