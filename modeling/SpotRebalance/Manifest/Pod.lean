import SpotRebalance.Manifest.Meta
import SpotRebalance.Manifest.ResourceList
import SpotRebalance.Manifest.Selector

/-! # Pod manifests

Reading a pod adds up its **effective requests**: what its containers request together or what one
of its init containers requests, whichever is more, and the overhead. If a quantity among them
cannot be read the pod requests nothing and remembers the fault, which keeps it off every node. A
toleration whose operator or effect is not known is left out. -/

namespace SpotRebalance

/-- A toleration in a manifest. -/
structure TolerationManifest where
  /-- The key of the taints. -/
  key : Option String := none
  /-- The name of the operator. -/
  operator : Option String := none
  /-- The value compared with. -/
  value : Option String := none
  /-- The name of the effect. -/
  effect : Option String := none
  deriving DecidableEq

namespace TolerationManifest

/-- The operator, if it is known; equality if none is given. -/
def operator? (t : TolerationManifest) : Option TolerationOperator :=
  match t.operator with
  | none => some .equalValue
  | some name =>
    if name = "" ∨ name = "Equal" then some .equalValue
    else if name = "Exists" then some .anyValue
    else none

/-- The effect, if it is known; every effect if none is given. -/
def effect? (t : TolerationManifest) : Option (Option TaintEffect) :=
  match t.effect with
  | none => some none
  | some name => if name = "" then some none else (TaintEffect.ofName? name).map some

/-- The toleration that a manifest stands for, if its operator and effect are known. -/
def toToleration? (t : TolerationManifest) : Option Toleration := do
  return ⟨t.key.filter (· != ""), ← t.operator?, t.value, ← t.effect?⟩

end TolerationManifest

/-- A port of a container. -/
structure PortManifest where
  /-- The port claimed on the host. -/
  hostPort : Option Int := none
  /-- The protocol. -/
  protocol : Option String := none
  /-- The address on the host. -/
  hostAddress : Option String := none
  deriving DecidableEq

/-- The host port that a manifest stands for, if it claims one. -/
def PortManifest.toHostPort? (p : PortManifest) : Option HostPort :=
  match p.hostPort with
  | none => none
  | some port =>
    if 0 < port ∧ port < 65536 then
      some ⟨UInt16.ofNat port.toNat, p.protocol.getD "TCP", p.hostAddress.getD ""⟩
    else none

/-- A container. -/
structure ContainerManifest where
  /-- What it requests. -/
  requests : ResourceList := ∅
  /-- Its ports. -/
  ports : List PortManifest := []
  deriving DecidableEq

/-- What a pod asks of the cluster. -/
structure PodSpecManifest where
  /-- The node the pod is bound to. -/
  nodeName : Option String := none
  /-- The containers. -/
  containers : List ContainerManifest := []
  /-- The containers that run first, one after the other. -/
  initContainers : List ContainerManifest := []
  /-- What the pod needs beside its containers. -/
  overhead : ResourceList := ∅
  /-- Labels a node must have. -/
  nodeSelector : Labels := ∅
  /-- The tolerations. -/
  tolerations : List TolerationManifest := []
  /-- The affinities. -/
  affinity : AffinityManifest := {}
  /-- The seconds the pod gets to end. -/
  graceSeconds : Option Int := none
  deriving DecidableEq

namespace PodSpecManifest

/-- All resource lists that are added up, in reading order. -/
def resourceLists (s : PodSpecManifest) : List ResourceList :=
  s.containers.map (·.requests) ++ s.initContainers.map (·.requests) ++ [s.overhead]

/-- The first quantity that cannot be read. -/
def requestFault? (s : PodSpecManifest) : Option String := s.resourceLists.findSome? (·.fault?)

/-- The requests of all containers and the overhead, as far as they can be read. -/
def readableRequests (s : PodSpecManifest) : Resources :=
  let running := s.containers.foldl (fun sum c => sum + c.requests.readable) {}
  let starting := s.initContainers.foldl (fun most c => max most c.requests.readable) {}
  { max running starting + s.overhead.readable with pods := 0 }

/-- The effective requests, or the first quantity that cannot be read. -/
def requests (s : PodSpecManifest) : Except String Resources :=
  match s.requestFault? with
  | some fault => .error fault
  | none => .ok s.readableRequests

/-- The ports that the containers claim on the host. -/
def hostPorts (s : PodSpecManifest) : List HostPort :=
  s.containers.flatMap fun c => c.ports.filterMap (·.toHostPort?)

/-- The node the pod is bound to; an empty name is none. -/
def boundNode? (s : PodSpecManifest) : Option String := s.nodeName.filter (· != "")

end PodSpecManifest

/-- A pod as the API writes it. -/
structure PodManifest where
  /-- The metadata. -/
  metadata : MetaManifest := {}
  /-- What the pod asks of the cluster. -/
  spec : Option PodSpecManifest := none
  /-- The name of the phase. -/
  phase : Option String := none
  /-- The conditions. -/
  conditions : List ConditionManifest := []
  deriving DecidableEq

namespace PodManifest

/-- The phase; a pod without one is pending. -/
def podPhase (p : PodManifest) : PodPhase :=
  match p.phase with
  | some name => .ofName name
  | none => .pending

/-- The node the pod is bound to. -/
def boundNode? (p : PodManifest) : Option String := p.spec.bind (·.boundNode?)

/-- Whether the scheduler could not place the pod. -/
def isUnschedulable (p : PodManifest) : Bool :=
  p.boundNode?.isNone && !p.podPhase.isTerminal &&
    p.conditions.any fun c =>
      c.kind == "PodScheduled" && c.status == "False" && c.reason == some "Unschedulable"

/-- The pod without what it asks of the cluster. -/
def withoutSpec (p : PodManifest) (name : String) : Pod where
  ns := p.metadata.namespaceOrDefault
  name := name
  uid := p.metadata.uid.getD ""
  labels := p.metadata.labels
  annotations := p.metadata.annotations
  owners := p.metadata.owners.map (·.toOwner)
  phase := p.podPhase
  terminating := p.metadata.deletionTimestamp.isSome

/-- The pod with what it asks of the cluster. -/
def withSpec (pod : Pod) (s : PodSpecManifest) : Pod :=
  { pod with
    nodeName := s.boundNode?
    requests := s.requests.toOption.getD {}
    requestError := s.requestFault?
    nodeSelector := s.nodeSelector
    tolerations := s.tolerations.filterMap (·.toToleration?)
    hostPorts := s.hostPorts
    gracePeriod := s.graceSeconds.map fun seconds => .ofSeconds seconds.toNat
    nodeAffinity := ⟨s.affinity.nodeTerms.map (·.toTerm)⟩
    affinity := s.affinity.near.filterMap (·.toTerm?)
    antiAffinity := s.affinity.far.filterMap (·.toTerm?) }

/-- The pod that a manifest stands for, if it has a name. -/
def toPod? (p : PodManifest) : Option Pod :=
  p.metadata.name.map fun name =>
    match p.spec with
    | some spec => withSpec (p.withoutSpec name) spec
    | none => p.withoutSpec name

end PodManifest

end SpotRebalance
