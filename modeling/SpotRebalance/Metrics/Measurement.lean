import SpotRebalance.Duration
import SpotRebalance.Role

/-! # Measurements

A **measurement** is one fact that the control loop reports about itself: how many nodes there are,
how many pods would have to move from a node, how a drain ended, how a cycle ended. `podCountsReset`
announces that the pod counts of a fresh snapshot follow and that earlier ones no longer hold. -/

namespace SpotRebalance

/-- How a drain ended. -/
inductive DrainResult where
  /-- Every pod left the node. -/
  | success
  /-- Some pod did not. -/
  | failure
  deriving DecidableEq

namespace DrainResult

/-- The name of a result in metrics. -/
def name : DrainResult → String
  | success => "success"
  | failure => "failure"

end DrainResult

/-- A fact that the control loop reports. -/
inductive Measurement where
  /-- How many nodes of a role there are. -/
  | nodeCount (role : Role) (count : Nat)
  /-- The pod counts reported so far no longer hold. -/
  | podCountsReset
  /-- How many relocatable pods a node has. -/
  | podCount (role : Role) (node : String) (count : Nat)
  /-- How the drain of a node ended. -/
  | drained (result : DrainResult) (node : String)
  /-- How a cycle ended and how long it took. -/
  | cycle (label : String) (duration : Duration)
  deriving DecidableEq

end SpotRebalance
