import SpotRebalance.Document.Manifest.Form.DisruptionBudget
import SpotRebalance.Document.Manifest.Meta
import SpotRebalance.Document.Manifest.Selector
import SpotRebalance.Manifest.DisruptionBudget

/-! # Reading disruption budget manifests -/

namespace SpotRebalance.BudgetManifest

/-- Reads the disruptions that a status allows. -/
def allowed? : Document.Reader Int := Document.open? fun fields => do
  fields.orEmpty "disruptionsAllowed" Document.int32? 0

/-- Reads a budget. -/
def ofDocument? : Document.Reader BudgetManifest :=
  MetaManifest.object? ManifestForm.disruptionBudget fun fields => do
    let spec ← fields.orEmpty "spec" Document.fields? []
    return {
      metadata := ← MetaManifest.ofField? fields
      selector := ← spec.optional "selector" SelectorManifest.ofDocument?
      disruptionsAllowed := ← fields.optional "status" allowed? }

end SpotRebalance.BudgetManifest
