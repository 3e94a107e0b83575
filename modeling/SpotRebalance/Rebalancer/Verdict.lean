import SpotRebalance.DrainPlan
import SpotRebalance.Relocation
import SpotRebalance.Snapshot

/-! # Verdicts on nodes

Whether an on-demand node could be drained right now: its pods that must move are chosen by the
filter of a **policy**, and a plan for them is made with the policy's judge. -/

namespace SpotRebalance

/-- How nodes are judged. -/
structure Policy where
  /-- Whether a pod fits a node. -/
  judge : FitJudge := Fit.obstacle?
  /-- Which pods must move. -/
  filter : RelocationFilter := Relocation.podsToMove

instance : Inhabited Policy := ⟨{}⟩

/-- What was decided on an on-demand node. -/
inductive NodeVerdict where
  /-- A pod must not be evicted. -/
  | skipped (reason : RebalanceError)
  /-- No pod must move. -/
  | noCandidates
  /-- A pod fits no spot node. -/
  | infeasible (reason : RebalanceError)
  /-- Every pod that must move has a destination. -/
  | drainable (pods : List Pod) (plan : DrainPlan)
  deriving DecidableEq

/-- The verdict on the pods of a node. -/
def Policy.verdict (policy : Policy) (budgets : List DisruptionBudget) (spot : List NodeLoad)
    (pods : List Pod) : NodeVerdict :=
  match policy.filter pods budgets with
  | .error reason => .skipped reason
  | .ok [] => .noCandidates
  | .ok (pod :: others) =>
    match DrainPlan.plan policy.judge spot (pod :: others) with
    | .ok plan => .drainable (pod :: others) plan
    | .error reason => .infeasible reason

end SpotRebalance
