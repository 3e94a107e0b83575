import SpotRebalance.DisruptionBudget
import SpotRebalance.Manifest.Meta
import SpotRebalance.Manifest.Selector

/-! # Disruption budget manifests

A budget without a selector covers no pods and is left out, and so is one without a name. A budget
whose status does not say how many disruptions it allows, allows none. -/

namespace SpotRebalance

/-- A disruption budget as the API writes it. -/
structure BudgetManifest where
  /-- The metadata. -/
  metadata : MetaManifest := {}
  /-- The labels of the pods covered. -/
  selector : Option SelectorManifest := none
  /-- How many disruptions are allowed now. -/
  disruptionsAllowed : Option Int := none
  deriving DecidableEq

/-- The budget that a manifest stands for, if it has a name and a selector. -/
def BudgetManifest.toBudget? (b : BudgetManifest) : Option DisruptionBudget := do
  let name ← b.metadata.name
  let selector ← b.selector
  return ⟨b.metadata.namespaceOrDefault, name, selector.toSelector, b.disruptionsAllowed.getD 0⟩

end SpotRebalance
