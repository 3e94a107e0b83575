import SpotRebalance.Config
import SpotRebalance.Node

/-! # Roles of nodes

A node is **on-demand** or **spot** if it carries the label of that role and not the other one. A
node with both labels, or with neither, is not managed. -/

namespace SpotRebalance

/-- The part a node plays in rebalancing. -/
inductive Role where
  /-- Expensive capacity, to be emptied. -/
  | onDemand
  /-- Cheap capacity, to be filled. -/
  | spot
  /-- Not managed. -/
  | other
  deriving DecidableEq

/-- The name of a role in metrics. -/
def Role.name : Role → String
  | onDemand => "on-demand"
  | spot => "spot"
  | other => "other"

/-- The labels by which roles are told apart. -/
structure RoleLabels where
  /-- The label of on-demand nodes. -/
  onDemand : String
  /-- The label of spot nodes. -/
  spot : String
  deriving DecidableEq

/-- The role labels of a configuration. -/
def Config.roleLabels (c : Config) : RoleLabels := ⟨c.onDemandLabel, c.spotLabel⟩

/-- The role of a node. -/
def RoleLabels.roleOf (labels : RoleLabels) (n : Node) : Role :=
  match n.hasLabel labels.onDemand, n.hasLabel labels.spot with
  | true, false => .onDemand
  | false, true => .spot
  | true, true => .other
  | false, false => .other

namespace RoleLabels

theorem roleOf_eq_onDemand_iff {labels : RoleLabels} {n : Node} :
    labels.roleOf n = .onDemand ↔ n.hasLabel labels.onDemand ∧ ¬ n.hasLabel labels.spot := by
  unfold roleOf
  cases n.hasLabel labels.onDemand <;> cases n.hasLabel labels.spot <;> simp

theorem roleOf_eq_spot_iff {labels : RoleLabels} {n : Node} :
    labels.roleOf n = .spot ↔ n.hasLabel labels.spot ∧ ¬ n.hasLabel labels.onDemand := by
  unfold roleOf
  cases n.hasLabel labels.onDemand <;> cases n.hasLabel labels.spot <;> simp

end RoleLabels

end SpotRebalance
