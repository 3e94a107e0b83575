import SpotRebalance.Document.Manifest.Form.Meta
import SpotRebalance.Document.Selector
import SpotRebalance.Manifest.Selector

/-! # Reading selectors of manifests

In a manifest, missing and null fields count as empty and unknown fields are ignored. -/

namespace SpotRebalance

/-- Reads an expression. -/
def ExpressionManifest.ofDocument? : Document.Reader ExpressionManifest :=
  Document.open? fun fields => do
  return {
    key := ← fields.orEmpty "key" Document.text? ""
    operator := ← fields.orEmpty "operator" Document.text? ""
    values := ← fields.orEmpty "values" (Document.list? Document.text?) [] }

/-- Reads the expressions of a field. -/
def ExpressionManifest.ofField? (fields : Document.Fields) (key : String) :
    Option (List ExpressionManifest) :=
  fields.orEmpty key (Document.list? ofDocument?) []

/-- Reads a selector of labels. -/
def SelectorManifest.ofDocument? : Document.Reader SelectorManifest :=
  Document.open? fun fields => do
  return {
    labels := ← fields.orEmpty "matchLabels" Labels.ofDocument? ∅
    expressions := ← ExpressionManifest.ofField? fields "matchExpressions" }

/-- Reads a term of a node selector. -/
def NodeTermManifest.ofDocument? : Document.Reader NodeTermManifest :=
  Document.open? fun fields => do
  return {
    expressions := ← ExpressionManifest.ofField? fields "matchExpressions"
    fields := ← ExpressionManifest.ofField? fields "matchFields" }

/-- Reads a group of pods. -/
def AffinityTermManifest.ofDocument? : Document.Reader AffinityTermManifest :=
  Document.open? fun fields => do
  return {
    selector := ← fields.optional "labelSelector" SelectorManifest.ofDocument?
    topologyKey := ← fields.orEmpty "topologyKey" Document.text? ""
    namespaces := ← fields.orEmpty "namespaces" (Document.list? Document.text?) [] }

namespace AffinityManifest

/-- Reads the terms of a required node selector. -/
def nodeTerms? : Document.Reader (List NodeTermManifest) := Document.open? fun affinity =>
  affinity.orEmpty ManifestForm.requiredField
    (Document.open? fun selector =>
      selector.orEmpty "nodeSelectorTerms" (Document.list? NodeTermManifest.ofDocument?) [])
    []

/-- Reads the required groups of an affinity. -/
def groups? : Document.Reader (List AffinityTermManifest) := Document.open? fun affinity =>
  affinity.orEmpty ManifestForm.requiredField (Document.list? AffinityTermManifest.ofDocument?) []

/-- Reads the affinities of a pod. -/
def ofDocument? : Document.Reader AffinityManifest := Document.open? fun fields => do
  return {
    nodeTerms := ← fields.orEmpty "nodeAffinity" nodeTerms? []
    near := ← fields.orEmpty "podAffinity" groups? []
    far := ← fields.orEmpty "podAntiAffinity" groups? [] }

end AffinityManifest

end SpotRebalance
