import SpotRebalance.Node
import SpotRebalance.Pod

/-! # Node loads

A **node load** is a node together with the pods counted on it: those bound to it, and in a plan
also those that are to move there. What the pods request together is the sum of their requests, with
the number of pods as its pod slots (`NodeLoad.requested`); what is left of the node is
`NodeLoad.free`. -/

namespace SpotRebalance

/-- A node and the pods counted on it, in the order they were counted. -/
structure NodeLoad where
  /-- The node. -/
  node : Node
  /-- The pods. -/
  pods : List Pod := []
  deriving DecidableEq

namespace NodeLoad

/-- The name of the node. -/
def name (l : NodeLoad) : String := l.node.name

/-- Counts another pod. -/
def add (l : NodeLoad) (p : Pod) : NodeLoad := { l with pods := l.pods ++ [p] }

/-- The sum of the requests of pods. -/
def sumRequests (pods : List Pod) : Resources := pods.foldl (fun sum p => sum + p.requests) {}

/-- What the pods request together, with their number as pod slots. -/
def requested (l : NodeLoad) : Resources :=
  { sumRequests l.pods with pods := .ofNat l.pods.length }

/-- What the node can allocate beyond what is requested. -/
def free (l : NodeLoad) : Resources := l.node.allocatable - l.requested

@[simp] theorem node_add (l : NodeLoad) (p : Pod) : (l.add p).node = l.node := rfl

@[simp] theorem pods_add (l : NodeLoad) (p : Pod) : (l.add p).pods = l.pods ++ [p] := rfl

end NodeLoad

end SpotRebalance
