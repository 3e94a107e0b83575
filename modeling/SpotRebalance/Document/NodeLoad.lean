import SpotRebalance.Document.Pod
import SpotRebalance.DrainPlan

/-! # Documents of node loads and plans

A node load is read as its node and its pods, and may leave both out. It is shown as the name of the
node, where each pod is bound, what is requested and what is free. A plan is shown as its
placements. -/

namespace SpotRebalance

/-- Reads a node load. -/
def NodeLoad.ofDocument? : Document.Reader NodeLoad := fun d => do
  let fields := d.fieldsOrNone
  return {
    node := ← fields.orNull "node" Node.ofDocument?
    pods := ← fields.listed "pods" Pod.ofDocument? }

/-- Shows a pod of a node load. -/
def NodeLoad.podDocument (p : Pod) : Document :=
  .record [("pod", .text p.key), ("node_name", .ofOption .text p.nodeName)]

/-- Shows a node load. -/
def NodeLoad.toDocument (l : NodeLoad) : Document :=
  .record [("name", .text l.name), ("pods", .ofList podDocument l.pods),
    ("requested", l.requested.toDocument), ("free", l.free.toDocument)]

/-- Shows a placement. -/
def Placement.toDocument (p : Placement) : Document :=
  .record [("pod", .text p.pod), ("node", .text p.node)]

/-- Shows the placements of a plan. -/
def DrainPlan.toDocument (plan : DrainPlan) : Document :=
  .ofList Placement.toDocument plan.placements

end SpotRebalance
