import SpotRebalance.NodeLoad
import SpotRebalance.Role

/-! # Snapshots

A **snapshot** sorts a listing of nodes and pods by role. On-demand nodes stay in listing order;
spot nodes are ordered by the processor time requested on them, busiest first, so that fuller nodes
are filled before emptier ones. Each pod that has not ended is counted on the first listed node of
the name it is bound to. -/

namespace SpotRebalance

/-- The managed nodes of the cluster at one moment. -/
structure Snapshot where
  /-- The on-demand nodes, in listing order. -/
  onDemand : List NodeLoad := []
  /-- The spot nodes, busiest first. -/
  spot : List NodeLoad := []
  /-- How many listed nodes are not managed. -/
  ignored : Nat := 0
  deriving DecidableEq, Inhabited

namespace Snapshot

/-- Counts each pod on the first node of the name it is bound to. -/
def loads : List Node → List Pod → List NodeLoad
  | [], _ => []
  | n :: nodes, pods =>
    ⟨n, pods.filter fun p => p.nodeName == some n.name⟩ ::
      loads nodes (pods.filter fun p => p.nodeName != some n.name)

/-- Whether the first of two loads has at least the requested processor time of the second. -/
def busierOrEqual (a b : NodeLoad) : Bool :=
  decide (b.requested.cpuMillis ≤ a.requested.cpuMillis)

/-- The snapshot of a listing. -/
def ofListing (labels : RoleLabels) (nodes : List Node) (pods : List Pod) : Snapshot :=
  let all := loads nodes (pods.filter fun p => !p.phase.isTerminal)
  let ofRole (role : Role) := all.filter fun l => labels.roleOf l.node == role
  { onDemand := ofRole .onDemand
    spot := (ofRole .spot).mergeSort busierOrEqual
    ignored := (ofRole .other).length }

/-- The nodes of a role; unmanaged nodes are not kept. -/
def ofRole? (s : Snapshot) : Role → Option (List NodeLoad)
  | .onDemand => some s.onDemand
  | .spot => some s.spot
  | .other => none

@[simp] theorem loads_map_node (nodes : List Node) (pods : List Pod) :
    (loads nodes pods).map (·.node) = nodes := by
  induction nodes generalizing pods with
  | nil => rfl
  | cons n nodes ih => simp [loads, ih]

end Snapshot

/-- The first load of a node name. -/
def NodeLoad.find? (loads : List NodeLoad) (name : String) : Option NodeLoad :=
  loads.find? fun l => l.name == name

end SpotRebalance
