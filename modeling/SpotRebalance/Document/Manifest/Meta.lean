import SpotRebalance.Document.Form
import SpotRebalance.Document.Selector
import SpotRebalance.Manifest.Meta
import SpotRebalance.Manifest.ResourceList

/-! # Reading object metadata

A whole object must have the form of its kind, also in the fields that are not read. -/

namespace SpotRebalance

/-- Reads an object of a form. -/
def MetaManifest.object? {α : Type} (form : Form) (read : Document.Fields → Option α) :
    Document.Reader α :=
  fun d => if form d then d.open? read else none

/-- Reads an owner. -/
def OwnerManifest.ofDocument? : Document.Reader OwnerManifest := Document.open? fun fields => do
  return {
    kind := ← fields.orEmpty "kind" Document.text? ""
    name := ← fields.orEmpty "name" Document.text? ""
    controller := ← fields.optional "controller" Document.truth? }

/-- Reads an instant in relaxed notation. -/
def Instant.ofRelaxedDocument? : Document.Reader Instant := Document.named? Instant.ofRelaxedText?

/-- Reads the metadata of an object. -/
def MetaManifest.ofDocument? : Document.Reader MetaManifest := Document.open? fun fields => do
  return {
    name := ← fields.optional "name" Document.text?
    ns := ← fields.optional "namespace" Document.text?
    uid := ← fields.optional "uid" Document.text?
    labels := ← fields.orEmpty "labels" Labels.ofDocument? ∅
    annotations := ← fields.orEmpty "annotations" Labels.ofDocument? ∅
    owners := ← fields.orEmpty "ownerReferences" (Document.list? OwnerManifest.ofDocument?) []
    deletionTimestamp := ← fields.optional "deletionTimestamp" Instant.ofRelaxedDocument? }

/-- Reads the metadata that an object may leave out. -/
def MetaManifest.ofField? (fields : Document.Fields) : Option MetaManifest :=
  fields.orEmpty "metadata" ofDocument? {}

/-- Reads a condition. -/
def ConditionManifest.ofDocument? : Document.Reader ConditionManifest :=
  Document.open? fun fields => do
  return {
    kind := ← fields.orEmpty "type" Document.text? ""
    status := ← fields.orEmpty "status" Document.text? ""
    reason := ← fields.optional "reason" Document.text? }

/-- Reads the conditions of a status. -/
def ConditionManifest.ofField? (status : Document.Fields) : Option (List ConditionManifest) :=
  status.orEmpty "conditions" (Document.list? ofDocument?) []

/-- Reads quantities by resource name. -/
def ResourceList.ofDocument? : Document.Reader ResourceList := Document.table? Document.text?

end SpotRebalance
