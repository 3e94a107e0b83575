import SpotRebalance.DisruptionBudget
import SpotRebalance.RebalanceError

/-! # Pods that must move

Before a node is drained its **relocatable** pods must move: all but mirror pods, daemon pods and
pods that have ended or are going away. One of them that nothing would start again, or that an
exhausted budget covers, blocks the drain (`Relocation.blocker?`). -/

namespace SpotRebalance

/-- Whether a pod must move before its node is drained. -/
def Pod.isRelocatable (p : Pod) : Bool := !p.isMirror && !p.isDaemon && !p.isEnding

/-- A choice of the pods of a node that must move, or the reason why the node cannot be drained. -/
abbrev RelocationFilter := List Pod → List DisruptionBudget → Except RebalanceError (List Pod)

namespace Relocation

/-- Why a pod must not be evicted: nothing manages it, or the first exhausted budget that covers
it. -/
def blocker? (budgets : List DisruptionBudget) (p : Pod) : Option RebalanceError :=
  if p.controller?.isNone then some (.podNotReplicated p.key)
  else (budgets.find? fun b => b.covers p && b.isExhausted).map fun b =>
    .budgetExhausted p.key b.key

/-- The relocatable pods, unless one of them must not be evicted. -/
def podsToMove : RelocationFilter := fun pods budgets =>
  let relocatable := pods.filter Pod.isRelocatable
  match relocatable.findSome? (blocker? budgets) with
  | some blocker => .error blocker
  | none => .ok relocatable

/-- The filter that moves every pod. -/
def everything : RelocationFilter := fun pods _ => .ok pods

/-- The filter that moves no pod. -/
def nothing : RelocationFilter := fun _ _ => .ok []

end Relocation

end SpotRebalance
