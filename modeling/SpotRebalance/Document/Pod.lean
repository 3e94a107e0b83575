import SpotRebalance.Document.Node
import SpotRebalance.Document.Time
import SpotRebalance.Pod

/-! # Documents of pods

Pods with their owners, tolerations and host ports. A pod that leaves them out is called `p`, lies
in the namespace `default`, and has its key for an identity. An owner that leaves them out is the
replica set `rs` and manages the pod. -/

namespace SpotRebalance

/-- Reads how a toleration compares values. -/
def TolerationOperator.ofDocument? : Document.Reader TolerationOperator :=
  Document.tagged? (Document.oneOf? [.equalValue, .anyValue] TolerationOperator.name)

/-- Reads a toleration. -/
def Toleration.ofDocument? : Document.Reader Toleration :=
  Document.closed? ["key", "operator", "value", "effect"] fun fields => do
    return {
      key := ← fields.optional "key" Document.text?
      operator := ← fields.orElse "operator" TolerationOperator.ofDocument? .equalValue
      value := ← fields.optional "value" Document.text?
      effect := ← fields.optional "effect" TaintEffect.ofDocument? }

/-- Writes a toleration. -/
def Toleration.toDocument (t : Toleration) : Document :=
  .record [("key", .ofOption .text t.key), ("operator", .text t.operator.name),
    ("value", .ofOption .text t.value), ("effect", .ofOption TaintEffect.toDocument t.effect)]

/-- Reads the number of a port. -/
def HostPort.portOfDocument? : Document.Reader UInt16 := fun d => (d.natural? 16).map .ofNat

/-- Reads a host port. -/
def HostPort.ofDocument? : Document.Reader HostPort :=
  Document.closed? ["port", "protocol", "host_ip"] fun fields => do
    return {
      port := ← fields.orElse "port" HostPort.portOfDocument? 0
      protocol := ← fields.orElse "protocol" Document.text? "TCP"
      hostAddress := ← fields.orElse "host_ip" Document.text? HostPort.everyAddress }

/-- Writes a host port. -/
def HostPort.toDocument (p : HostPort) : Document :=
  .record [("port", .ofNat p.port.toNat), ("protocol", .text p.protocol),
    ("host_ip", .text p.hostAddress)]

/-- Reads an owner. -/
def OwnerReference.ofDocument? : Document.Reader OwnerReference :=
  Document.closed? ["kind", "name", "controller"] fun fields => do
    return {
      kind := ← fields.orElse "kind" Document.text? "ReplicaSet"
      name := ← fields.orElse "name" Document.text? "rs"
      controller := ← fields.orElse "controller" Document.truth? true }

/-- Writes an owner. -/
def OwnerReference.toDocument (o : OwnerReference) : Document :=
  .record [("kind", .text o.kind), ("name", .text o.name), ("controller", .truth o.controller)]

/-- Reads a phase. -/
def PodPhase.ofDocument? : Document.Reader PodPhase := Document.tagged? PodPhase.ofName?

namespace Pod

/-- The names of all fields. -/
def fieldNames : List String :=
  ["namespace", "name", "uid", "node_name", "labels", "annotations", "owners", "requests",
    "node_selector", "node_affinity", "affinity", "anti_affinity", "tolerations", "host_ports",
    "phase", "terminating", "termination_grace_period", "request_error"]

/-- Reads a pod. -/
def ofDocument? : Document.Reader Pod := Document.closed? fieldNames fun fields => do
  let ns ← fields.orElse "namespace" Document.text? "default"
  let name ← fields.orElse "name" Document.text? "p"
  return {
    ns, name
    uid := ← fields.orElse "uid" Document.text? (ns ++ "/" ++ name)
    nodeName := ← fields.optional "node_name" Document.text?
    labels := ← fields.orElse "labels" Labels.ofDocument? ∅
    annotations := ← fields.orElse "annotations" Labels.ofDocument? ∅
    owners := ← fields.listed "owners" OwnerReference.ofDocument?
    requests := ← fields.orElse "requests" Resources.ofDocument? {}
    nodeSelector := ← fields.orElse "node_selector" Labels.ofDocument? ∅
    nodeAffinity := ← fields.orElse "node_affinity" NodeAffinity.ofDocument? {}
    affinity := ← fields.listed "affinity" PodAffinityTerm.ofDocument?
    antiAffinity := ← fields.listed "anti_affinity" PodAffinityTerm.ofDocument?
    tolerations := ← fields.listed "tolerations" Toleration.ofDocument?
    hostPorts := ← fields.listed "host_ports" HostPort.ofDocument?
    phase := ← fields.orElse "phase" PodPhase.ofDocument? .running
    terminating := ← fields.orElse "terminating" Document.truth? false
    gracePeriod := ← fields.optional "termination_grace_period" Duration.ofDocument?
    requestError := ← fields.optional "request_error" Document.text? }

/-- Writes a pod. -/
def toDocument (p : Pod) : Document :=
  .record [("namespace", .text p.ns), ("name", .text p.name), ("uid", .text p.uid),
    ("node_name", .ofOption .text p.nodeName), ("labels", Labels.toDocument p.labels),
    ("annotations", Labels.toDocument p.annotations),
    ("owners", .ofList OwnerReference.toDocument p.owners), ("requests", p.requests.toDocument),
    ("node_selector", Labels.toDocument p.nodeSelector),
    ("node_affinity", p.nodeAffinity.toDocument),
    ("affinity", .ofList PodAffinityTerm.toDocument p.affinity),
    ("anti_affinity", .ofList PodAffinityTerm.toDocument p.antiAffinity),
    ("tolerations", .ofList Toleration.toDocument p.tolerations),
    ("host_ports", .ofList HostPort.toDocument p.hostPorts), ("phase", .text p.phase.name),
    ("terminating", .truth p.terminating),
    ("termination_grace_period", .ofOption Duration.toDocument p.gracePeriod),
    ("request_error", .ofOption .text p.requestError)]

/-- Writes the keys of pods. -/
def keysDocument (pods : List Pod) : Document := .ofList (fun p => .text p.key) pods

end Pod

end SpotRebalance
