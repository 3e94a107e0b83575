import SpotRebalance.DisruptionBudget
import SpotRebalance.Exchange
import SpotRebalance.RebalanceError
import SpotRebalance.Snapshot

/-! # The environment of a rebalancer

The rebalancer lists the cluster and orders drains through an **environment** with a state of its
own. What other parties do to the cluster during an exchange is part of that state. A listing is
complete or fails.

A **survey** lists nodes, pods and disruption budgets, in that order, and ends with the first
failure. -/

namespace SpotRebalance

universe u

/-- An order to empty a node. -/
structure DrainOrder where
  /-- The node. -/
  node : Node
  /-- The pods to evict. -/
  pods : List Pod
  /-- The longest time a pod gets to end. -/
  gracePeriod : Duration
  /-- How long the eviction of one pod is tried. -/
  evictionTimeout : Duration
  deriving DecidableEq

/-- The cluster as the rebalancer reaches it. -/
structure Environment (σ : Type u) where
  /-- Lists the nodes that are ready. -/
  nodes : Exchange σ (Except RebalanceError (List Node))
  /-- Lists the pods of all namespaces. -/
  pods : Exchange σ (Except RebalanceError (List Pod))
  /-- Lists the disruption budgets of all namespaces. -/
  budgets : Exchange σ (Except RebalanceError (List DisruptionBudget))
  /-- Lists the pods that the scheduler cannot place. -/
  unschedulablePods : Exchange σ (Except RebalanceError (List Pod))
  /-- Carries out a drain. -/
  drain : DrainOrder → Exchange σ (Except RebalanceError Unit)

/-- The managed nodes and the disruption budgets of the cluster at one moment. -/
structure Survey where
  /-- The nodes with their pods. -/
  snapshot : Snapshot
  /-- The budgets. -/
  budgets : List DisruptionBudget
  deriving DecidableEq

/-- Lists nodes, pods and budgets. -/
def Environment.survey {σ : Type u} (env : Environment σ) (labels : RoleLabels) :
    Exchange σ (Except RebalanceError Survey) :=
  env.nodes.andThen fun nodes =>
    env.pods.andThen fun pods =>
      env.budgets.map fun answer => answer.map fun budgets =>
        ⟨.ofListing labels nodes pods, budgets⟩

end SpotRebalance
