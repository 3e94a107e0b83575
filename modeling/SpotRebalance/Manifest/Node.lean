import SpotRebalance.Manifest.Meta
import SpotRebalance.Manifest.ResourceList
import SpotRebalance.Node

/-! # Node manifests

A node is ready if one of its conditions says so. Reading a node keeps its labels, the taints whose
effect is known, and what it can allocate; a quantity that cannot be read counts as zero. -/

namespace SpotRebalance

/-- A taint in a manifest. -/
structure TaintManifest where
  /-- The key. -/
  key : String := ""
  /-- The value. -/
  value : Option String := none
  /-- The name of the effect. -/
  effect : String := ""
  deriving DecidableEq

/-- The taint that a manifest stands for, if its effect is known. -/
def TaintManifest.toTaint? (t : TaintManifest) : Option Taint :=
  (TaintEffect.ofName? t.effect).map fun effect => ⟨t.key, t.value, effect⟩

/-- A node as the API writes it. -/
structure NodeManifest where
  /-- The metadata. -/
  metadata : MetaManifest := {}
  /-- The taints. -/
  taints : List TaintManifest := []
  /-- Whether the node is cordoned. -/
  unschedulable : Option Bool := none
  /-- The conditions. -/
  conditions : List ConditionManifest := []
  /-- What pods may request together. -/
  allocatable : ResourceList := ∅
  deriving DecidableEq

namespace NodeManifest

/-- Whether the node is ready. -/
def isReady (n : NodeManifest) : Bool :=
  n.conditions.any fun c => c.kind == "Ready" && c.status == "True"

/-- The node that a manifest stands for, if it has a name. -/
def toNode? (n : NodeManifest) : Option Node :=
  n.metadata.name.map fun name =>
    { name
      labels := n.metadata.labels
      taints := n.taints.filterMap (·.toTaint?)
      allocatable := n.allocatable.readable
      unschedulable := n.unschedulable.getD false }

end NodeManifest

end SpotRebalance
