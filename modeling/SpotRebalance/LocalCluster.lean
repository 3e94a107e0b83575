import SpotRebalance.Rebalancer.Environment

/-! # Clusters in memory

A **local cluster** holds its nodes, pods and budgets in memory and drains at will: listings and
drains can be made to fail, drains can take time, and a drain that succeeds removes the evicted pods
if the cluster is set to. Every drain is recorded when it is carried out. Cordoned nodes are not
listed. -/

namespace SpotRebalance

/-- A drain that was carried out. -/
structure DrainCall where
  /-- The name of the node. -/
  node : String
  /-- The keys of the pods. -/
  pods : List String
  /-- The longest time a pod gets to end. -/
  gracePeriod : Duration
  /-- How long the eviction of one pod is tried. -/
  evictionTimeout : Duration
  deriving DecidableEq

/-- The record of an order. -/
def DrainOrder.call (order : DrainOrder) : DrainCall :=
  ⟨order.node.name, order.pods.map (·.key), order.gracePeriod, order.evictionTimeout⟩

/-- A cluster in memory. -/
structure LocalCluster where
  /-- The nodes. -/
  nodes : List Node := []
  /-- The pods. -/
  pods : List Pod := []
  /-- The disruption budgets. -/
  budgets : List DisruptionBudget := []
  /-- The pods that the scheduler cannot place. -/
  unschedulable : List Pod := []
  /-- The listings that fail. -/
  failing : List Listing := []
  /-- Whether a drain that succeeds removes the evicted pods. -/
  evicting : Bool := true
  /-- Why drains fail, if they do. -/
  drainFailure : Option String := none
  /-- How long a drain takes. -/
  drainTakes : Duration := ⟨0⟩
  /-- The drains carried out, in order. -/
  calls : List DrainCall := []
  deriving DecidableEq, Inhabited

namespace LocalCluster

/-- A change of a local cluster. -/
inductive Change where
  /-- Adds a node. -/
  | addNode (node : Node)
  /-- Adds a pod. -/
  | addPod (pod : Pod)
  /-- Adds a budget. -/
  | addBudget (budget : DisruptionBudget)
  /-- Adds a pod that the scheduler cannot place. -/
  | addUnschedulable (pod : Pod)
  /-- Removes the pods that the scheduler cannot place. -/
  | clearUnschedulable
  /-- Removes the pods of a key. -/
  | removePod (key : String)
  /-- Removes the nodes of a name. -/
  | removeNode (name : String)
  /-- Makes a listing fail. -/
  | failListing (listing : Listing)
  /-- Makes every listing succeed again. -/
  | healListings
  /-- Makes drains fail. -/
  | failDrains (reason : String)
  /-- Makes drains succeed again. -/
  | healDrains
  /-- Makes each further drain take a time. -/
  | slowDrains (takes : Duration)
  deriving DecidableEq

/-- Removes the pods of a key. -/
def removePod (c : LocalCluster) (key : String) : LocalCluster :=
  { c with pods := c.pods.filter fun p => p.key != key }

/-- The cluster after a change. -/
def apply (c : LocalCluster) : Change → LocalCluster
  | .addNode node => { c with nodes := c.nodes ++ [node] }
  | .addPod pod => { c with pods := c.pods ++ [pod] }
  | .addBudget budget => { c with budgets := c.budgets ++ [budget] }
  | .addUnschedulable pod => { c with unschedulable := c.unschedulable ++ [pod] }
  | .clearUnschedulable => { c with unschedulable := [] }
  | .removePod key => c.removePod key
  | .removeNode name => { c with nodes := c.nodes.filter fun n => n.name != name }
  | .failListing listing => { c with failing := listing :: c.failing }
  | .healListings => { c with failing := [] }
  | .failDrains reason => { c with drainFailure := some reason }
  | .healDrains => { c with drainFailure := none }
  | .slowDrains takes => { c with drainTakes := takes }

/-- Whether a change finds what it is to remove; other changes have no answer. -/
def removes? (c : LocalCluster) : Change → Option Bool
  | .removePod key => some (c.pods.any fun p => p.key == key)
  | .removeNode name => some (c.nodes.any fun n => n.name == name)
  | _ => none

/-- The pods bound to a node. -/
def podsOn (c : LocalCluster) (node : String) : List Pod :=
  c.pods.filter fun p => p.nodeName == some node

/-- The names of the nodes of all drains, in order. -/
def drainedNodes (c : LocalCluster) : List String := c.calls.map (·.node)

/-- Why a listing fails that was made to. -/
def injectedReason : String := "injected failure"

/-- The items of a listing, unless it was made to fail. -/
def listing {α : Type} (c : LocalCluster) (listing : Listing) (items : List α) :
    Except RebalanceError (List α) :=
  if c.failing.contains listing then .error (.listingFailed listing injectedReason) else .ok items

/-- The end of a drain: it is recorded, and fails or removes its pods. -/
def finishDrain (c : LocalCluster) (order : DrainOrder) :
    Except RebalanceError Unit × LocalCluster :=
  let recorded := { c with calls := c.calls ++ [order.call] }
  match c.drainFailure with
  | some reason => (.error (.drainFailed order.node.name reason), recorded)
  | none =>
    (.ok (), if c.evicting then order.pods.foldl (fun c p => c.removePod p.key) recorded
      else recorded)

/-- The nodes that are listed. -/
def listNodes (c : LocalCluster) : Except RebalanceError (List Node) :=
  c.listing .nodes (c.nodes.filter fun n => !n.unschedulable)

/-- The pods. -/
def listPods (c : LocalCluster) : Except RebalanceError (List Pod) := c.listing .pods c.pods

/-- The disruption budgets. -/
def listBudgets (c : LocalCluster) : Except RebalanceError (List DisruptionBudget) :=
  c.listing .disruptionBudgets c.budgets

/-- The pods that the scheduler cannot place. -/
def listUnschedulable (c : LocalCluster) : Except RebalanceError (List Pod) :=
  c.listing .unschedulablePods c.unschedulable

/-- The environment of a local cluster that nothing else changes during a cycle. -/
def environment : Environment LocalCluster where
  nodes c := ⟨c.listNodes, ⟨0⟩, c⟩
  pods c := ⟨c.listPods, ⟨0⟩, c⟩
  budgets c := ⟨c.listBudgets, ⟨0⟩, c⟩
  unschedulablePods c := ⟨c.listUnschedulable, ⟨0⟩, c⟩
  drain order c :=
    let (answer, after) := c.finishDrain order
    ⟨answer, c.drainTakes, after⟩

end LocalCluster

end SpotRebalance
