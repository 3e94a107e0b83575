import SpotRebalance.Selector

/-! # Selectors in manifests

A **manifest** is an object as the cluster's API writes it. The selectors in it name their operators
in text. An expression whose operator is not known becomes a requirement that nothing satisfies; a
node selector term on fields, which labels cannot decide, becomes a term that accepts no node; and a
pod affinity term without a selector selects no pods and is left out. -/

namespace SpotRebalance

/-- An expression on the label, or the field, under one key. -/
structure ExpressionManifest where
  /-- The key. -/
  key : String := ""
  /-- The name of the operator. -/
  operator : String := ""
  /-- The values the operator refers to. -/
  values : List String := []
  deriving DecidableEq

/-- The requirement that an expression stands for. -/
def ExpressionManifest.toRequirement (e : ExpressionManifest) : Requirement :=
  match SelectorOperator.ofName? e.operator with
  | some operator => ⟨e.key, operator, e.values⟩
  | none => ⟨e.key, .oneOf, []⟩

/-- A selector of labels. -/
structure SelectorManifest where
  /-- Labels that must have exactly these values. -/
  labels : Labels := ∅
  /-- Expressions that must hold. -/
  expressions : List ExpressionManifest := []
  deriving DecidableEq

/-- The label selector that a selector stands for. -/
def SelectorManifest.toSelector (s : SelectorManifest) : LabelSelector :=
  ⟨s.labels, s.expressions.map (·.toRequirement)⟩

/-- A term of a node selector. -/
structure NodeTermManifest where
  /-- Expressions on labels. -/
  expressions : List ExpressionManifest := []
  /-- Expressions on fields. -/
  fields : List ExpressionManifest := []
  deriving DecidableEq

/-- The term that a manifest term stands for. -/
def NodeTermManifest.toTerm (t : NodeTermManifest) : NodeSelectorTerm :=
  if t.fields.isEmpty then ⟨t.expressions.map (·.toRequirement)⟩ else ⟨[]⟩

/-- A group of pods within a topology domain. -/
structure AffinityTermManifest where
  /-- The labels of the pods. -/
  selector : Option SelectorManifest := none
  /-- The node label whose value names the domain. -/
  topologyKey : String := ""
  /-- The namespaces of the pods. -/
  namespaces : List String := []
  deriving DecidableEq

/-- The term that a manifest term stands for; none without a selector. -/
def AffinityTermManifest.toTerm? (t : AffinityTermManifest) : Option PodAffinityTerm :=
  t.selector.map fun selector => ⟨selector.toSelector, t.topologyKey, t.namespaces⟩

/-- The required affinities of a pod. -/
structure AffinityManifest where
  /-- The terms of the required node selector. -/
  nodeTerms : List NodeTermManifest := []
  /-- Groups that must be near. -/
  near : List AffinityTermManifest := []
  /-- Groups that must be far. -/
  far : List AffinityTermManifest := []
  deriving DecidableEq

end SpotRebalance
