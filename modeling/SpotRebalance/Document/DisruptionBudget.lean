import SpotRebalance.Document.Selector
import SpotRebalance.DisruptionBudget

/-! # Documents of disruption budgets

A budget that leaves them out is called `b` and lies in the namespace `default`. -/

namespace SpotRebalance.DisruptionBudget

/-- Reads a budget. -/
def ofDocument? : Document.Reader DisruptionBudget :=
  Document.closed? ["namespace", "name", "selector", "disruptions_allowed"] fun fields => do
    return {
      ns := ← fields.orElse "namespace" Document.text? "default"
      name := ← fields.orElse "name" Document.text? "b"
      selector := ← fields.orElse "selector" LabelSelector.ofDocument? {}
      disruptionsAllowed := ← fields.orElse "disruptions_allowed" Document.int32? 0 }

/-- Writes a budget. -/
def toDocument (b : DisruptionBudget) : Document :=
  .record [("namespace", .text b.ns), ("name", .text b.name), ("selector", b.selector.toDocument),
    ("disruptions_allowed", .integer b.disruptionsAllowed)]

end SpotRebalance.DisruptionBudget
