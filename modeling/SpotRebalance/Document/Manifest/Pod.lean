import SpotRebalance.Document.Manifest.Form.Pod
import SpotRebalance.Document.Manifest.Meta
import SpotRebalance.Document.Manifest.Selector
import SpotRebalance.Manifest.Pod

/-! # Reading pod manifests -/

namespace SpotRebalance

/-- Reads a toleration. -/
def TolerationManifest.ofDocument? : Document.Reader TolerationManifest :=
  Document.open? fun fields => do
  return {
    key := ← fields.optional "key" Document.text?
    operator := ← fields.optional "operator" Document.text?
    value := ← fields.optional "value" Document.text?
    effect := ← fields.optional "effect" Document.text? }

/-- Reads a port. -/
def PortManifest.ofDocument? : Document.Reader PortManifest := Document.open? fun fields => do
  return {
    hostPort := ← fields.optional "hostPort" Document.int32?
    protocol := ← fields.optional "protocol" Document.text?
    hostAddress := ← fields.optional "hostIP" Document.text? }

/-- Reads what a container requests. -/
def ContainerManifest.requests? : Document.Reader ResourceList := Document.open? fun fields => do
  fields.orEmpty "requests" ResourceList.ofDocument? ∅

/-- Reads a container. -/
def ContainerManifest.ofDocument? : Document.Reader ContainerManifest :=
  Document.open? fun fields => do
  return {
    requests := ← fields.orEmpty "resources" requests? ∅
    ports := ← fields.orEmpty "ports" (Document.list? PortManifest.ofDocument?) [] }

/-- Reads the containers of a field. -/
def ContainerManifest.ofField? (fields : Document.Fields) (key : String) :
    Option (List ContainerManifest) :=
  fields.orEmpty key (Document.list? ofDocument?) []

/-- Reads what a pod asks of the cluster. -/
def PodSpecManifest.ofDocument? : Document.Reader PodSpecManifest := Document.open? fun fields => do
  return {
    nodeName := ← fields.optional "nodeName" Document.text?
    containers := ← ContainerManifest.ofField? fields "containers"
    initContainers := ← ContainerManifest.ofField? fields "initContainers"
    overhead := ← fields.orEmpty "overhead" ResourceList.ofDocument? ∅
    nodeSelector := ← fields.orEmpty "nodeSelector" Labels.ofDocument? ∅
    tolerations := ← fields.orEmpty "tolerations" (Document.list? TolerationManifest.ofDocument?) []
    affinity := ← fields.orEmpty "affinity" AffinityManifest.ofDocument? {}
    graceSeconds := ← fields.optional "terminationGracePeriodSeconds" Document.int64? }

/-- Reads a pod. -/
def PodManifest.ofDocument? : Document.Reader PodManifest :=
  MetaManifest.object? ManifestForm.pod fun fields => do
    let status ← fields.orEmpty "status" Document.fields? []
    return {
      metadata := ← MetaManifest.ofField? fields
      spec := ← fields.optional "spec" PodSpecManifest.ofDocument?
      phase := ← status.optional "phase" Document.text?
      conditions := ← ConditionManifest.ofField? status }

end SpotRebalance
