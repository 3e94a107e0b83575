/-! # Errors of rebalancing

What can go wrong while a drain is planned or carried out. A listing that fails ends the whole
cycle; an error **within a node** only rules out one node. -/

namespace SpotRebalance

/-- A listing of the cluster. -/
inductive Listing where
  /-- The nodes that are ready. -/
  | nodes
  /-- The pods. -/
  | pods
  /-- The disruption budgets. -/
  | disruptionBudgets
  /-- The pods that the scheduler cannot place. -/
  | unschedulablePods
  deriving DecidableEq

/-- What is listed, in words. -/
def Listing.subject : Listing → String
  | nodes => "nodes"
  | pods => "pods"
  | disruptionBudgets => "pod disruption budgets"
  | unschedulablePods => "unschedulable pods"

/-- Why a rebalancing step failed. -/
inductive RebalanceError where
  /-- A listing failed. -/
  | listingFailed (listing : Listing) (reason : String)
  /-- Nothing would start the pod again after an eviction. -/
  | podNotReplicated (pod : String)
  /-- A disruption budget allows no disruption of the pod. -/
  | budgetExhausted (pod budget : String)
  /-- No spot node takes the pod. -/
  | unplaceable (pod : String)
  /-- The drain of a node failed. -/
  | drainFailed (node reason : String)
  /-- The configuration makes no sense. -/
  | invalidConfig (reason : String)
  deriving DecidableEq

namespace RebalanceError

/-- The error in words. -/
def message : RebalanceError → String
  | listingFailed listing reason => "failed to list " ++ listing.subject ++ ": " ++ reason
  | podNotReplicated pod => "pod " ++ pod ++ " is not replicated"
  | budgetExhausted pod budget =>
    "pod " ++ pod ++ " is protected by disruption budget " ++ budget
  | unplaceable pod => "pod " ++ pod ++ " can't be rescheduled on any existing spot node"
  | drainFailed node reason => "failed to drain node " ++ node ++ ": " ++ reason
  | invalidConfig reason => "invalid configuration: " ++ reason

/-- Whether the error rules out a single node only. -/
def isWithinNode : RebalanceError → Bool
  | podNotReplicated .. | budgetExhausted .. | unplaceable .. | drainFailed .. => true
  | listingFailed .. | invalidConfig .. => false

end RebalanceError

end SpotRebalance
