import SpotRebalance.Instant

/-! # Outcomes of cycles

What one cycle of the rebalancer came to. An outcome **attempts a drain** if it drained a node,
failed to, or would have done so; such cycles, and no others, start a new cooldown. -/

namespace SpotRebalance

/-- What a cycle did. -/
inductive Outcome where
  /-- The last attempt at a drain is too recent. -/
  | coolingDown (deadline : Instant)
  /-- The scheduler has pods that it cannot place. -/
  | unschedulablePods (count : Nat)
  /-- There are no on-demand nodes. -/
  | noOnDemandNodes
  /-- No on-demand node can be drained. -/
  | nothingDrainable (considered : Nat)
  /-- A node was drained of a number of pods. -/
  | drained (node : String) (pods : Nat)
  /-- The drain of a node failed. -/
  | drainFailed (node reason : String)
  /-- A node would have been drained of a number of pods. -/
  | dryRun (node : String) (pods : Nat)
  deriving DecidableEq

namespace Outcome

/-- The name of an outcome in metrics. -/
def label : Outcome → String
  | coolingDown .. => "cooling_down"
  | unschedulablePods .. => "unschedulable_pods"
  | noOnDemandNodes => "no_on_demand_nodes"
  | nothingDrainable .. => "nothing_drainable"
  | drained .. => "drained"
  | drainFailed .. => "drain_failed"
  | dryRun .. => "dry_run"

/-- Whether the cycle attempted a drain. -/
def attemptsDrain : Outcome → Bool
  | drained .. | drainFailed .. | dryRun .. => true
  | coolingDown .. | unschedulablePods .. | noOnDemandNodes | nothingDrainable .. => false

end Outcome

end SpotRebalance
