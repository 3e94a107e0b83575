import SpotRebalance.ClusterApi.Server
import SpotRebalance.RebalanceError

/-! # Listing the cluster through the API

Nodes are listed if they are ready, named and not cordoned. Pods and budgets are listed if they can
be read. Of the pods that are not bound, those count as unschedulable that the scheduler has tried
to place. -/

namespace SpotRebalance.ClusterApi

universe u

variable {σ : Type u}

/-- The nodes of a list of manifests. -/
def readyNodes (manifests : List NodeManifest) : List Node :=
  ((manifests.filter (·.isReady)).filterMap (·.toNode?)).filter fun n => !n.unschedulable

/-- The pods of a list of manifests. -/
def pods (manifests : List PodManifest) : List Pod := manifests.filterMap (·.toPod?)

/-- The unschedulable pods of a list of manifests. -/
def unschedulablePods (manifests : List PodManifest) : List Pod :=
  pods (manifests.filter (·.isUnschedulable))

/-- The budgets of a list of manifests. -/
def budgets (manifests : List BudgetManifest) : List DisruptionBudget :=
  manifests.filterMap (·.toBudget?)

/-- A listing of the items of an answer. -/
def listing {α β : Type} (listing : Listing) (read : List α → List β)
    (x : Exchange (Session σ) (Except ClientError (List α))) :
    Exchange (Session σ) (Except RebalanceError (List β)) :=
  x.map fun
    | .ok items => .ok (read items)
    | .error e => .error (.listingFailed listing e.message)

/-- Lists the nodes that are ready. -/
def listNodes (api : ApiServer σ) : Exchange (Session σ) (Except RebalanceError (List Node)) :=
  listing .nodes readyNodes (Session.send api .listNodes)

/-- Lists the pods. -/
def listPods (api : ApiServer σ) : Exchange (Session σ) (Except RebalanceError (List Pod)) :=
  listing .pods pods (Session.send api (.listPods .active))

/-- Lists the disruption budgets. -/
def listBudgets (api : ApiServer σ) :
    Exchange (Session σ) (Except RebalanceError (List DisruptionBudget)) :=
  listing .disruptionBudgets budgets (Session.send api .listBudgets)

/-- Lists the pods that the scheduler cannot place. -/
def listUnschedulable (api : ApiServer σ) :
    Exchange (Session σ) (Except RebalanceError (List Pod)) :=
  listing .unschedulablePods unschedulablePods (Session.send api (.listPods .pending))

end SpotRebalance.ClusterApi
