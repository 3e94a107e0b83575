import SpotRebalance.Document.Manifest.Form.Node
import SpotRebalance.Document.Manifest.Meta
import SpotRebalance.Manifest.Node

/-! # Reading node manifests -/

namespace SpotRebalance

/-- Reads a taint. -/
def TaintManifest.ofDocument? : Document.Reader TaintManifest := Document.open? fun fields => do
  return {
    key := ← fields.orEmpty "key" Document.text? ""
    value := ← fields.optional "value" Document.text?
    effect := ← fields.orEmpty "effect" Document.text? "" }

/-- Reads a node. -/
def NodeManifest.ofDocument? : Document.Reader NodeManifest :=
  MetaManifest.object? ManifestForm.node fun fields => do
    let spec ← fields.orEmpty "spec" Document.fields? []
    let status ← fields.orEmpty "status" Document.fields? []
          return {
      metadata := ← MetaManifest.ofField? fields
      taints := ← spec.orEmpty "taints" (Document.list? TaintManifest.ofDocument?) []
      unschedulable := ← spec.optional "unschedulable" Document.truth?
      conditions := ← ConditionManifest.ofField? status
      allocatable := ← status.orEmpty "allocatable" ResourceList.ofDocument? ∅ }

end SpotRebalance
