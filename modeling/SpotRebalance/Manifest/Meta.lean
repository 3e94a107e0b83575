import SpotRebalance.Instant
import SpotRebalance.Pod

/-! # Object metadata

What manifests of nodes, pods and budgets have in common: names, labels, owners and conditions. -/

namespace SpotRebalance

/-- A reference to an owner. -/
structure OwnerManifest where
  /-- The kind of the owner. -/
  kind : String := ""
  /-- The name of the owner. -/
  name : String := ""
  /-- Whether the owner manages the object. -/
  controller : Option Bool := none
  deriving DecidableEq

/-- The owner that a reference stands for. -/
def OwnerManifest.toOwner (o : OwnerManifest) : OwnerReference :=
  ⟨o.kind, o.name, o.controller.getD false⟩

/-- The metadata of an object. -/
structure MetaManifest where
  /-- The name. -/
  name : Option String := none
  /-- The namespace. -/
  ns : Option String := none
  /-- The identity that the API server assigned. -/
  uid : Option String := none
  /-- The labels. -/
  labels : Labels := ∅
  /-- The annotations. -/
  annotations : Labels := ∅
  /-- The owners. -/
  owners : List OwnerManifest := []
  /-- When the deletion was asked for. -/
  deletionTimestamp : Option Instant := none
  deriving DecidableEq

/-- The namespace of an object that names none. -/
def defaultNamespace : String := "default"

/-- The namespace of an object. -/
def MetaManifest.namespaceOrDefault (m : MetaManifest) : String := m.ns.getD defaultNamespace

/-- A condition in the status of an object. -/
structure ConditionManifest where
  /-- The aspect described. -/
  kind : String := ""
  /-- Whether it holds: `True`, `False` or `Unknown`. -/
  status : String := ""
  /-- Why. -/
  reason : Option String := none
  deriving DecidableEq

end SpotRebalance
