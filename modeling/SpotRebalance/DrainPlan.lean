import SpotRebalance.Fit
import SpotRebalance.RebalanceError

/-! # Drain plans

A **drain plan** gives every pod that must move a spot node, first fit in node order. Pods are
placed one after the other on a projection of the spot nodes, so each placement counts against the
later ones; the first pod that fits nowhere ends the planning.

`placeFirst?` places one pod, and `plan` places a list by placing its first pod and planning the
others on what that leaves. -/

namespace SpotRebalance

/-- A pod and the node it is to move to. -/
structure Placement where
  /-- The key of the pod. -/
  pod : String
  /-- The name of the node. -/
  node : String
  deriving DecidableEq

/-- Destinations for the pods of a node. -/
structure DrainPlan where
  /-- The placements, in pod order. -/
  placements : List Placement := []
  /-- The spot nodes as they will be after the drain. -/
  projected : List NodeLoad := []
  deriving DecidableEq, Inhabited

namespace DrainPlan

/-- The destination of a pod key; of two pods with one key the first counts. -/
def destination? (plan : DrainPlan) (pod : String) : Option String :=
  (plan.placements.find? fun p => p.pod == pod).map (·.node)

/-- Places an unbound pod on the first node where the judge finds no obstacle, and names that
node. -/
def placeFirst? (judge : FitJudge) (pod : Pod) : List NodeLoad → Option (String × List NodeLoad)
  | [] => none
  | load :: rest =>
    if Fit.accepts judge pod load then some (load.name, load.add (pod.boundTo load.name) :: rest)
    else (placeFirst? judge pod rest).map fun placed => (placed.1, load :: placed.2)

/-- Places all pods, each as if unbound, or names the first that fits nowhere. -/
def plan (judge : FitJudge) (loads : List NodeLoad) : List Pod → Except RebalanceError DrainPlan
  | [] => .ok ⟨[], loads⟩
  | pod :: pods =>
    match placeFirst? judge pod.unbound loads with
    | none => .error (.unplaceable pod.key)
    | some (node, loads) =>
      match plan judge loads pods with
      | .ok rest => .ok ⟨⟨pod.key, node⟩ :: rest.placements, rest.projected⟩
      | .error e => .error e

end DrainPlan

end SpotRebalance
