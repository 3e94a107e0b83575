import SpotRebalance.Document.Form

/-! # Forms of what all manifests have

Metadata, selectors, quantities by resource name, and the frame of an object with its version and
kind. -/

namespace SpotRebalance.ManifestForm

open Form

/-- Quantities by resource name. -/
def quantities : Form := textTable

/-- An owner. -/
def owner : Form :=
  record (texts ["apiVersion", "kind", "name", "uid"] ++
    each truth ["blockOwnerDeletion", "controller"])

/-- What one manager said about which fields. -/
def managedFields : Form :=
  record (texts ["apiVersion", "fieldsType", "manager", "operation", "subresource"] ++
    [("fieldsV1", any), ("time", instant)])

/-- The metadata of an object. -/
def metadata : Form :=
  record (texts ["generateName", "name", "namespace", "resourceVersion", "selfLink", "uid"] ++
    each textTable ["annotations", "labels"] ++
      each instant ["creationTimestamp", "deletionTimestamp"] ++
    each int64 ["deletionGracePeriodSeconds", "generation"] ++
    [("finalizers", textList), ("managedFields", listOf managedFields),
      ("ownerReferences", listOf owner)])

/-- An expression of a selector. -/
def expression : Form := record (texts ["key", "operator"] ++ [("values", textList)])

/-- A selector of labels. -/
def labelSelector : Form :=
  record [("matchExpressions", listOf expression), ("matchLabels", textTable)]

/-- The field of affinities that must hold when a pod is scheduled. -/
def requiredField : String := "requiredDuringSchedulingIgnoredDuringExecution"

/-- An object of a version and a kind. -/
def object (version kind : String) (spec status : Form) : Form := fun d =>
  record [("metadata", metadata), ("spec", spec), ("status", status)] d &&
    (requiring "apiVersion" (fixed version) d || !requiring "apiVersion" any d) &&
    (requiring "kind" (fixed kind) d || !requiring "kind" any d)

end SpotRebalance.ManifestForm
