import SpotRebalance.Document.Manifest.Form.Meta

/-! # Forms of disruption budgets -/

namespace SpotRebalance.ManifestForm

open Form

/-- How many disruptions are wanted. -/
def budgetSpec : Form :=
  record (each int32OrText ["maxUnavailable", "minAvailable"] ++
    [("selector", labelSelector), ("unhealthyPodEvictionPolicy", text)])

/-- A condition of a budget. It says when it last changed. -/
def budgetCondition : Form := fun d =>
  record (texts ["message", "reason", "status", "type"] ++
    [("lastTransitionTime", instant), ("observedGeneration", int64)]) d &&
    requiring "lastTransitionTime" instant d

/-- The status of a budget. -/
def budgetStatus : Form :=
  record (each int32 ["currentHealthy", "desiredHealthy", "disruptionsAllowed", "expectedPods"] ++
    [("conditions", listOf budgetCondition), ("disruptedPods", tableOf instant),
      ("observedGeneration", int64)])

/-- A disruption budget. -/
def disruptionBudget : Form := object "policy/v1" "PodDisruptionBudget" budgetSpec budgetStatus

end SpotRebalance.ManifestForm
