import SpotRebalance.Pod

/-! # Disruption budgets

A **disruption budget** limits how many pods of a set may be disrupted at once. It covers the pods
of its namespace that its selector accepts, and is exhausted when it allows no further
disruption. -/

namespace SpotRebalance

/-- A limit on the disruption of a set of pods. -/
structure DisruptionBudget where
  /-- The namespace. -/
  ns : String
  /-- The name. -/
  name : String
  /-- The labels of the pods covered. -/
  selector : LabelSelector := {}
  /-- How many disruptions are allowed now. -/
  disruptionsAllowed : Int := 0
  deriving DecidableEq

namespace DisruptionBudget

/-- The key `namespace/name`. -/
def key (b : DisruptionBudget) : String := b.ns ++ "/" ++ b.name

/-- Whether the budget covers a pod. -/
def covers (b : DisruptionBudget) (p : Pod) : Bool := b.ns == p.ns && b.selector.accepts p.labels

/-- Whether the budget allows no disruption. -/
def isExhausted (b : DisruptionBudget) : Bool := decide (b.disruptionsAllowed < 1)

end DisruptionBudget

end SpotRebalance
