import SpotRebalance.ClusterApi.Request
import SpotRebalance.Document

/-! # Bodies of requests

What is sent along with a request to the API server: the event to keep, or the grace that an
eviction gives. An event has no time of its own here; whoever sends it stamps it. -/

namespace SpotRebalance

namespace EventSubject

/-- The namespace of the subject; nodes have none. -/
def ns? : EventSubject → Option String
  | node _ => none
  | pod p => some p.ns

/-- Refers to the subject. -/
def toDocument (s : EventSubject) : Document :=
  .record
    ([("apiVersion", .text "v1"), ("kind", .text s.kind), ("name", .text s.name)] ++
      Document.ofField? "namespace" .text s.ns? ++ Document.ofField? "uid" .text s.uid?)

end EventSubject

/-- The fields of an event. -/
def ClusterEvent.fields (e : ClusterEvent) : Document.Fields :=
  [("apiVersion", .text "v1"), ("kind", .text "Event"), ("count", .ofNat 1),
    ("involvedObject", e.subject.toDocument), ("message", .text e.message),
    ("metadata",
      .record [("generateName", .text (e.subject.name ++ ".")),
        ("namespace", .text e.subject.keptIn)]),
    ("reason", .text e.reason), ("reportingComponent", .text component),
    ("source", .record [("component", .text component)]), ("type", .text e.kind.name)]

/-- The fields of an eviction. -/
def ApiRequest.evictionFields (pod : Pod) (graceSeconds : Nat) : Document.Fields :=
  [("metadata", .record [("name", .text pod.name)]),
    ("delete_options", .record [("gracePeriodSeconds", .ofNat graceSeconds)])]

/-- The fields of the body of a request, if it has one. -/
def ApiRequest.body? : ApiRequest → Option Document.Fields
  | createEvent event => some event.fields
  | evict pod graceSeconds => some (evictionFields pod graceSeconds)
  | listNodes | listPods _ | listBudgets | getPod _ => none

end SpotRebalance
