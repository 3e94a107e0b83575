import SpotRebalance.Eviction.Fault

/-! # Waiting for deletion

After all evictions the pods of a node are looked up, one after the other in list order, until a
**pass** finds none of them. A pod counts as left if it is found under its identity and still on the
node, or if it cannot be told whether it is. The last pass comes no earlier than the deadline.

The wait is interrupted at its start if the clock does not reach its deadline. -/

namespace SpotRebalance.Deletion

universe u

variable {σ : Type u}

/-- The word by which the API server says that there is no such object. -/
def notFound : String := "NotFound"

/-- Whether a pod that was found is the pod evicted from a node, and still there. -/
def isSamePod (node : String) (pod : Pod) (found : PodManifest) : Bool :=
  (pod.uid == "" || found.metadata.uid == some pod.uid) &&
    (found.spec.bind (·.nodeName)) == some node

/-- Whether a pod counts as left on a node after it was looked up. -/
def isLeft (node : String) (pod : Pod) : Except ClientError PodManifest → Bool
  | .ok found => isSamePod node pod found
  | .error (.fault f) => f.reason != notFound
  | .error (.unsendable _) | .error (.connection _) | .error (.unreadable _)
  | .error .endlessLine => true

/-- The keys of the pods that one pass finds left. -/
def pass (api : ApiServer σ) (node : String) : List Pod → Exchange (Session σ) (List String)
  | [] => .done []
  | pod :: pods =>
    (Session.send api (.getPod pod)).bind fun answer =>
      (pass api node pods).map fun left => if isLeft node pod answer then pod.key :: left else left

/-- What the pods are waited for. -/
structure Watch where
  /-- The name of the node. -/
  node : String
  /-- The pods. -/
  pods : List Pod
  /-- The time between passes. -/
  pollInterval : Duration
  /-- How long the pods are waited for. -/
  timeout : Duration
  /-- The last reading after which another pass is made. -/
  deadline : Duration

/-- Makes passes until one finds nothing or the deadline has passed, at most a number of times. -/
def awaitFrom (api : ApiServer σ) (w : Watch) :
    Nat → Exchange (Session σ) (Except Interruption (Except EvictionFault Unit))
  | 0 => .done (.error .stalled)
  | fuel + 1 =>
    (pass api w.node w.pods).bind fun
      | [] => .done (.ok (.ok ()))
      | key :: keys => fun s =>
        if w.deadline ≤ s.clock then ⟨.ok (.error (.notDeleted (key :: keys) w.timeout)), ⟨0⟩, s⟩
        else ((Session.sleep w.pollInterval).bind fun () => awaitFrom api w fuel) s

/-- A bound on the number of passes. -/
def mostPasses (w : Watch) : Nat := w.timeout.nanos / max w.pollInterval.nanos 1 + 2

/-- Waits until the pods have left a node. -/
def await (api : ApiServer σ) (node : String) (pods : List Pod) (pollInterval timeout : Duration) :
    Exchange (Session σ) (Except Interruption (Except EvictionFault Unit)) := fun s =>
  match s.clock.later? timeout with
  | none => ⟨.error .clockExhausted, ⟨0⟩, s⟩
  | some deadline =>
    let watch : Watch := { node, pods, pollInterval, timeout, deadline }
    awaitFrom api watch (mostPasses watch) s

end SpotRebalance.Deletion
