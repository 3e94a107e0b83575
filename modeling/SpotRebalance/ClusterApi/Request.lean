import SpotRebalance.ClusterApi.Event
import SpotRebalance.Manifest.DisruptionBudget
import SpotRebalance.Manifest.Node
import SpotRebalance.Manifest.Pod
import SpotRebalance.Uri

/-! # Requests to the API server

The six requests that are made of an API server, what each one is answered with, and where it goes:
its method, and the URI of its path and of the query that selects pods by fields. Names go into the
path as they are. If that gives no URI the request cannot be sent, nor can one that looks up a pod
without a name. -/

namespace SpotRebalance

/-- Which pods are listed. -/
inductive PodSelection where
  /-- Pods that still occupy a node. -/
  | active
  /-- Pods that are not bound to a node and have not ended. -/
  | pending
  deriving DecidableEq

/-- The field selector of a selection. -/
def PodSelection.fields : PodSelection → String
  | active => "status.phase!=Succeeded,status.phase!=Failed"
  | pending => "spec.nodeName=,status.phase!=Succeeded,status.phase!=Failed"

/-- Something asked of the API server. -/
inductive ApiRequest where
  /-- List all nodes. -/
  | listNodes
  /-- List the pods of all namespaces. -/
  | listPods (selection : PodSelection)
  /-- List the disruption budgets of all namespaces. -/
  | listBudgets
  /-- Look up a pod. -/
  | getPod (pod : Pod)
  /-- Evict a pod, giving it some seconds to end. -/
  | evict (pod : Pod) (graceSeconds : Nat)
  /-- Keep an event. -/
  | createEvent (event : ClusterEvent)
  deriving DecidableEq

namespace ApiRequest

/-- What a request is answered with. -/
def Response : ApiRequest → Type
  | listNodes => List NodeManifest
  | listPods _ => List PodManifest
  | listBudgets => List BudgetManifest
  | getPod _ => PodManifest
  | evict .. => Unit
  | createEvent _ => Unit

/-- The method of a request. -/
def method : ApiRequest → String
  | listNodes | listPods _ | listBudgets | getPod _ => "GET"
  | evict .. | createEvent _ => "POST"

/-- The path of a namespace. -/
def namespacePath (ns : String) : String := "/api/v1/namespaces/" ++ ns

/-- The path of a pod. -/
def podPath (p : Pod) : String := namespacePath p.ns ++ "/pods/" ++ p.name

/-- The path of a request. -/
def path : ApiRequest → String
  | listNodes => "/api/v1/nodes"
  | listPods _ => "/api/v1/pods"
  | listBudgets => "/apis/policy/v1/poddisruptionbudgets"
  | getPod p => podPath p
  | evict p _ => podPath p ++ "/eviction"
  | createEvent event => namespacePath event.subject.keptIn ++ "/events"

/-- A character of a field selector in a query. -/
def queryChar (c : Char) : String :=
  if c = '!' then "%21" else if c = '=' then "%3D" else if c = ',' then "%2C" else c.toString

/-- The fields by which a request selects, as a query says it. -/
def selection : ApiRequest → String
  | listPods selection =>
    "&fieldSelector=" ++ String.join (selection.fields.toList.map queryChar)
  | listNodes | listBudgets | getPod _ | evict .. | createEvent _ => ""

/-- The target of a request in full. -/
def target (r : ApiRequest) : String := r.path ++ "?" ++ r.selection

end ApiRequest

/-- Why a request cannot be sent. -/
inductive RequestFault where
  /-- It names no object. -/
  | nameMissing
  /-- Its target is no URI. -/
  | target (fault : UriFault)
  deriving DecidableEq

/-- The fault in words. -/
def RequestFault.message : RequestFault → String
  | nameMissing => "failed to validate request: A non-empty name is required"
  | target fault => "failed to build request: " ++ fault.message

namespace ApiRequest

/-- Whether a request is for an object by its name and the name is empty. -/
def lacksName : ApiRequest → Bool
  | getPod p => p.name == ""
  | listNodes | listPods _ | listBudgets | evict .. | createEvent _ => false

/-- The URI that a request is sent to. -/
def uri (r : ApiRequest) : Except RequestFault Uri :=
  if r.lacksName then .error .nameMissing
  else
    match Uri.parse r.target with
    | .ok uri => .ok uri
    | .error fault => .error (.target fault)

end ApiRequest

end SpotRebalance
