import SpotRebalance.Document
import SpotRebalance.Selector

/-! # Documents of selectors

A selector that says nothing about labels, requirements, terms or namespaces leaves the field
out. -/

namespace SpotRebalance

/-- Reads labels. -/
def Labels.ofDocument? : Document.Reader Labels := Document.table? Document.text?

/-- Writes labels. -/
def Labels.toDocument (labels : Labels) : Document := .ofTable .text labels

/-- Reads a requirement. -/
def Requirement.ofDocument? : Document.Reader Requirement :=
  Document.closed? ["key", "operator", "values"] fun fields => do
    return {
      key := ← fields.required "key" Document.text?
      operator := ← fields.required "operator" (Document.tagged? SelectorOperator.ofName?)
      values := ← fields.orElse "values" Document.texts? [] }

/-- Writes a requirement. -/
def Requirement.toDocument (r : Requirement) : Document :=
  .record [("key", .text r.key), ("operator", .text r.operator.name), ("values", .ofTexts r.values)]

/-- Reads a label selector. -/
def LabelSelector.ofDocument? : Document.Reader LabelSelector :=
  Document.closed? ["match_labels", "match_expressions"] fun fields => do
    return {
      labels := ← fields.orElse "match_labels" Labels.ofDocument? ∅
      requirements := ← fields.listed "match_expressions" Requirement.ofDocument? }

/-- Writes a label selector. -/
def LabelSelector.toDocument (s : LabelSelector) : Document :=
  .record [("match_labels", Labels.toDocument s.labels),
    ("match_expressions", .ofList Requirement.toDocument s.requirements)]

/-- Reads a node selector term. -/
def NodeSelectorTerm.ofDocument? : Document.Reader NodeSelectorTerm :=
  Document.closed? ["match_expressions"] fun fields => do
    return { requirements := ← fields.listed "match_expressions" Requirement.ofDocument? }

/-- Writes a node selector term. -/
def NodeSelectorTerm.toDocument (t : NodeSelectorTerm) : Document :=
  .record [("match_expressions", .ofList Requirement.toDocument t.requirements)]

/-- Reads a node affinity. -/
def NodeAffinity.ofDocument? : Document.Reader NodeAffinity :=
  Document.closed? ["required_terms"] fun fields => do
    return { terms := ← fields.listed "required_terms" NodeSelectorTerm.ofDocument? }

/-- Writes a node affinity. -/
def NodeAffinity.toDocument (a : NodeAffinity) : Document :=
  .record [("required_terms", .ofList NodeSelectorTerm.toDocument a.terms)]

/-- Reads a pod affinity term. -/
def PodAffinityTerm.ofDocument? : Document.Reader PodAffinityTerm :=
  Document.closed? ["selector", "topology_key", "namespaces"] fun fields => do
    return {
      selector := ← fields.orElse "selector" LabelSelector.ofDocument? {}
      topologyKey := ← fields.required "topology_key" Document.text?
      namespaces := ← fields.orElse "namespaces" Document.texts? [] }

/-- Writes a pod affinity term. -/
def PodAffinityTerm.toDocument (t : PodAffinityTerm) : Document :=
  .record [("selector", t.selector.toDocument), ("topology_key", .text t.topologyKey),
    ("namespaces", .ofTexts t.namespaces)]

end SpotRebalance
