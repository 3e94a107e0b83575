import SpotRebalance.Manifest.Meta
import SpotRebalance.Pod

/-! # Cluster events

An **event** tells observers of the cluster what happened to a node or a pod. Events about a node,
which has no namespace, are kept in the default one. -/

namespace SpotRebalance

/-- What an event is about. -/
inductive EventSubject where
  /-- The node of a name. -/
  | node (name : String)
  /-- A pod. -/
  | pod (pod : Pod)
  deriving DecidableEq

namespace EventSubject

/-- The kind of the subject. -/
def kind : EventSubject → String
  | node _ => "Node"
  | pod _ => "Pod"

/-- The name of the subject. -/
def name : EventSubject → String
  | node name => name
  | pod p => p.name

/-- The namespace that the event is kept in. -/
def keptIn : EventSubject → String
  | node _ => defaultNamespace
  | pod p => p.ns

/-- The identity of the subject, if it has one. Nodes go by their name. -/
def uid? : EventSubject → Option String
  | node name => some name
  | pod p => if p.uid = "" then none else some p.uid

end EventSubject

/-- How serious an event is. -/
inductive EventKind where
  /-- All is well. -/
  | normal
  /-- Something went wrong. -/
  | warning
  deriving DecidableEq

/-- The name of a kind in the cluster's API. -/
def EventKind.name : EventKind → String
  | normal => "Normal"
  | warning => "Warning"

/-- Something that happened in the cluster. -/
structure ClusterEvent where
  /-- What it happened to. -/
  subject : EventSubject
  /-- How serious it is. -/
  kind : EventKind
  /-- What happened, in one word. -/
  reason : String
  /-- What happened, in words. -/
  message : String
  deriving DecidableEq

/-- The component that reports all events. -/
def ClusterEvent.component : String := "rescheduler"

end SpotRebalance
