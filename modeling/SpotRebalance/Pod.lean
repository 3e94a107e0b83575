import SpotRebalance.Duration
import SpotRebalance.Resources
import SpotRebalance.Selector
import SpotRebalance.Taint

/-! # Pods

A **pod** as it was listed: where it runs, what it requests, which nodes and neighbours it accepts,
who owns it and how it ends. A pod is known by its key `namespace/name`. -/

namespace SpotRebalance

/-- The annotation of a pod that a node runs on its own account. -/
def mirrorAnnotation : String := "kubernetes.io/config.mirror"

/-- The phase of a pod's life. -/
inductive PodPhase where
  /-- Accepted, but not all containers run. -/
  | pending
  /-- Bound, with a container running. -/
  | running
  /-- All containers ended well. -/
  | succeeded
  /-- All containers ended, one of them badly. -/
  | failed
  /-- Not known. -/
  | unknown
  deriving DecidableEq

namespace PodPhase

/-- The name of a phase in the cluster's API. -/
def name : PodPhase → String
  | pending => "Pending"
  | running => "Running"
  | succeeded => "Succeeded"
  | failed => "Failed"
  | unknown => "Unknown"

/-- All phases. -/
def all : List PodPhase := [pending, running, succeeded, failed, unknown]

/-- The phase of a name, if a phase has it. -/
def ofName? (s : String) : Option PodPhase := all.find? (·.name == s)

/-- The phase of a name; a name that no phase has is not known. -/
def ofName (s : String) : PodPhase := (ofName? s).getD unknown

@[simp] theorem ofName_name (p : PodPhase) : ofName p.name = p := by cases p <;> decide

/-- Whether a pod never leaves the phase. -/
def isTerminal : PodPhase → Bool
  | succeeded | failed => true
  | pending | running | unknown => false

end PodPhase

/-- A reference to an object that owns a pod. -/
structure OwnerReference where
  /-- The kind of the owner. -/
  kind : String
  /-- The name of the owner. -/
  name : String
  /-- Whether the owner manages the pod. -/
  controller : Bool
  deriving DecidableEq

/-- A port that a container claims on its host. -/
structure HostPort where
  /-- The number of the port. -/
  port : UInt16
  /-- The protocol. -/
  protocol : String
  /-- The address; empty or all zeros for every address. -/
  hostAddress : String
  deriving DecidableEq

namespace HostPort

/-- The address that stands for every address of a host. -/
def everyAddress : String := "0.0.0.0"

/-- A TCP port on every address. -/
def tcp (port : UInt16) : HostPort := ⟨port, "TCP", everyAddress⟩

/-- Whether the port claims every address. -/
def isWildcard (p : HostPort) : Bool := p.hostAddress == "" || p.hostAddress == everyAddress

/-- Whether two ports cannot be bound on one host. -/
def conflictsWith (p q : HostPort) : Bool :=
  p.port == q.port && p.protocol == q.protocol &&
    (p.hostAddress == q.hostAddress || p.isWildcard || q.isWildcard)

theorem conflictsWith_comm (p q : HostPort) : p.conflictsWith q = q.conflictsWith p := by
  simp only [conflictsWith, Bool.beq_comm (a := p.port), Bool.beq_comm (a := p.protocol),
    Bool.beq_comm (a := p.hostAddress), Bool.or_assoc, Bool.or_comm p.isWildcard]

end HostPort

/-- A pod of the cluster. -/
structure Pod where
  /-- The namespace. -/
  ns : String
  /-- The name. -/
  name : String
  /-- The identity that the API server assigned. -/
  uid : String := ns ++ "/" ++ name
  /-- The node the pod is bound to. -/
  nodeName : Option String := none
  /-- The labels. -/
  labels : Labels := ∅
  /-- The annotations. -/
  annotations : Labels := ∅
  /-- The owners. -/
  owners : List OwnerReference := []
  /-- The requests of all containers together. Pod slots are not requested. -/
  requests : Resources := {}
  /-- Labels a node must have. -/
  nodeSelector : Labels := ∅
  /-- The nodes the pod can be bound to. -/
  nodeAffinity : NodeAffinity := {}
  /-- Groups that must have a pod in the domain of the node. -/
  affinity : List PodAffinityTerm := []
  /-- Groups that must have no pod in the domain of the node. -/
  antiAffinity : List PodAffinityTerm := []
  /-- The taints the pod tolerates. -/
  tolerations : List Toleration := []
  /-- The ports claimed on the host. -/
  hostPorts : List HostPort := []
  /-- The phase. -/
  phase : PodPhase := .running
  /-- Whether the pod is being deleted. -/
  terminating : Bool := false
  /-- The time the pod asks for to end. -/
  gracePeriod : Option Duration := none
  /-- Why the requests could not be read, if they could not. -/
  requestError : Option String := none
  deriving DecidableEq

namespace Pod

/-- The key `namespace/name`. -/
def key (p : Pod) : String := p.ns ++ "/" ++ p.name

/-- The pod bound to no node. -/
def unbound (p : Pod) : Pod := { p with nodeName := none }

/-- The pod bound to a node. -/
def boundTo (p : Pod) (node : String) : Pod := { p with nodeName := some node }

/-- The time the pod gets to end: what it asks for, or at most `longest`. -/
def graceWithin (p : Pod) (longest : Duration) : Duration :=
  match p.gracePeriod with
  | some grace => min grace longest
  | none => longest

/-- The owner that manages the pod. -/
def controller? (p : Pod) : Option OwnerReference := p.owners.find? (·.controller)

/-- Whether a node runs the pod on its own account. -/
def isMirror (p : Pod) : Bool := p.annotations.contains mirrorAnnotation

/-- Whether a daemon set manages the pod. -/
def isDaemon (p : Pod) : Bool := p.controller?.any (·.kind == "DaemonSet")

/-- Whether the pod has ended or is going away. -/
def isEnding (p : Pod) : Bool := p.terminating || p.phase.isTerminal

/-- Sets a label. -/
def withLabel (p : Pod) (key value : String) : Pod := { p with labels := p.labels.insert key value }

/-- Sets an annotation. -/
def withAnnotation (p : Pod) (key value : String) : Pod :=
  { p with annotations := p.annotations.insert key value }

/-- Requires a node label. -/
def withNodeSelector (p : Pod) (key value : String) : Pod :=
  { p with nodeSelector := p.nodeSelector.insert key value }

/-- Adds an owner. -/
def withOwner (p : Pod) (owner : OwnerReference) : Pod := { p with owners := p.owners ++ [owner] }

/-- Adds a group that must be near. -/
def withAffinity (p : Pod) (t : PodAffinityTerm) : Pod := { p with affinity := p.affinity ++ [t] }

/-- Adds a group that must be far. -/
def withAntiAffinity (p : Pod) (t : PodAffinityTerm) : Pod :=
  { p with antiAffinity := p.antiAffinity ++ [t] }

/-- Adds a toleration. -/
def withToleration (p : Pod) (t : Toleration) : Pod :=
  { p with tolerations := p.tolerations ++ [t] }

/-- Claims a host port. -/
def withHostPort (p : Pod) (port : HostPort) : Pod := { p with hostPorts := p.hostPorts ++ [port] }

@[simp] theorem key_unbound (p : Pod) : p.unbound.key = p.key := rfl

@[simp] theorem key_boundTo (p : Pod) (node : String) : (p.boundTo node).key = p.key := rfl

@[simp] theorem unbound_boundTo (p : Pod) (node : String) :
    (p.boundTo node).unbound = p.unbound := rfl

@[simp] theorem boundTo_unbound (p : Pod) (node : String) :
    p.unbound.boundTo node = p.boundTo node :=
  rfl

end Pod

end SpotRebalance
