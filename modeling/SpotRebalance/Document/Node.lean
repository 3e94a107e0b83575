import SpotRebalance.Document.Resources
import SpotRebalance.Document.Selector
import SpotRebalance.Node

/-! # Documents of nodes

Nodes with their taints. A node that leaves its name out is called `n`. -/

namespace SpotRebalance

/-- Reads the effect of a taint. -/
def TaintEffect.ofDocument? : Document.Reader TaintEffect := Document.tagged? TaintEffect.ofName?

/-- Writes the effect of a taint. -/
def TaintEffect.toDocument (e : TaintEffect) : Document := .text e.name

/-- Reads a taint. -/
def Taint.ofDocument? : Document.Reader Taint :=
  Document.closed? ["key", "value", "effect"] fun fields => do
    return {
      key := ← fields.required "key" Document.text?
      value := ← fields.optional "value" Document.text?
      effect := ← fields.required "effect" TaintEffect.ofDocument? }

/-- Writes a taint. -/
def Taint.toDocument (t : Taint) : Document :=
  .record [("key", .text t.key), ("value", .ofOption .text t.value),
    ("effect", t.effect.toDocument)]

/-- Reads a node. -/
def Node.ofDocument? : Document.Reader Node :=
  Document.closed? ["name", "labels", "taints", "allocatable", "unschedulable"] fun fields => do
    return {
      name := ← fields.orElse "name" Document.text? "n"
      labels := ← fields.orElse "labels" Labels.ofDocument? ∅
      taints := ← fields.listed "taints" Taint.ofDocument?
      allocatable := ← fields.orElse "allocatable" Resources.ofDocument? {}
      unschedulable := ← fields.orElse "unschedulable" Document.truth? false }

/-- Writes a node. -/
def Node.toDocument (n : Node) : Document :=
  .record [("name", .text n.name), ("labels", Labels.toDocument n.labels),
    ("taints", .ofList Taint.toDocument n.taints), ("allocatable", n.allocatable.toDocument),
    ("unschedulable", .truth n.unschedulable)]

end SpotRebalance
