import SpotRebalance.Requirement
import SpotRebalance.Resources
import SpotRebalance.Taint

/-! # Nodes

A **node** as it was listed: its labels, its taints, what it can allocate, and whether it is
cordoned. The value of a topology key names the domain that a node lies in; the hostname key falls
back to the node's name, so every node has a hostname domain (`Node.topology?_hostname`). -/

namespace SpotRebalance

/-- The label that holds the hostname of a node. -/
def hostnameLabel : String := "kubernetes.io/hostname"

/-- A node of the cluster. -/
structure Node where
  /-- The name. -/
  name : String
  /-- The labels. -/
  labels : Labels := ∅
  /-- The taints. -/
  taints : List Taint := []
  /-- What pods on the node may request together. -/
  allocatable : Resources := {}
  /-- Whether the node is cordoned. -/
  unschedulable : Bool := false
  deriving DecidableEq

namespace Node

/-- Whether the node carries a label, whatever its value. -/
def hasLabel (n : Node) (key : String) : Bool := n.labels.contains key

/-- The topology domain of the node under a key. -/
def topology? (n : Node) (key : String) : Option String :=
  match n.labels.get? key with
  | some value => some value
  | none => if key = hostnameLabel then some n.name else none

/-- Whether the node lies in a topology domain under a key. -/
def inDomain (n : Node) (key : String) : Bool := (n.topology? key).isSome

theorem topology?_hostname (n : Node) : n.inDomain hostnameLabel := by
  simp only [inDomain, topology?]
  split <;> simp

/-- Sets a label. -/
def withLabel (n : Node) (key value : String) : Node :=
  { n with labels := n.labels.insert key value }

/-- Adds a taint. -/
def withTaint (n : Node) (taint : Taint) : Node := { n with taints := n.taints ++ [taint] }

/-- Cordons the node. -/
def cordoned (n : Node) : Node := { n with unschedulable := true }

end Node

end SpotRebalance
