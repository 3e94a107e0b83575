import SpotRebalance.Eviction.Fault

/-! # Workers

A **worker** evicts one pod. It attempts the eviction, and after a temporary refusal pauses and
attempts it again unless its deadline has passed. Once the eviction is accepted it announces so, and
then it leaves; it leaves at once if the pod is gone or the refusal is final. A worker acts at its
**wake** reading and then sleeps until the answer of its request has come, or until its pause is
over.

A worker sets its deadline when it wakes for the first time. If the clock does not reach that far,
all work breaks off there (`Worker.breaksOff`). -/

namespace SpotRebalance

universe u

/-- What the workers of a drain have in common. -/
structure EvictionTask where
  /-- The name of the node. -/
  node : String
  /-- The longest time a pod gets to end. -/
  gracePeriod : Duration
  /-- How long an eviction is tried. -/
  timeout : Duration
  /-- The pause between attempts. -/
  retryInterval : Duration

namespace EvictionTask

/-- The most seconds of grace that a request can ask for. -/
def longestGrace : Nat := 4294967295

/-- The request to evict a pod. -/
def request (t : EvictionTask) (pod : Pod) : ApiRequest :=
  .evict pod (min (pod.graceWithin t.gracePeriod).seconds longestGrace)

/-- The event that announces the eviction of a pod. -/
def announcement (t : EvictionTask) (pod : Pod) : ClusterEvent :=
  ⟨.pod pod, .normal, "Rescheduled",
    "evicted from node " ++ t.node ++ " to move it onto spot capacity"⟩

end EvictionTask

/-- What a worker does when it wakes. -/
inductive WorkerStep where
  /-- Attempts the eviction, unless there was an error and the deadline has passed. -/
  | attempt (last : Option ClientError)
  /-- Announces the eviction. -/
  | announce
  /-- Leaves, with the fault if there is one. -/
  | leave (fault : Option EvictionFault)

/-- A worker that sleeps. -/
structure Worker where
  /-- The position of the pod in the list. -/
  index : Nat
  /-- The pod. -/
  pod : Pod
  /-- When no further attempt is made. -/
  deadline : Duration
  /-- When the worker wakes. -/
  wake : Duration
  /-- What it does then. -/
  step : WorkerStep

namespace Worker

/-- A worker that starts now. -/
def start (t : EvictionTask) (now : Duration) (index : Nat) (pod : Pod) : Worker :=
  ⟨index, pod, now + t.timeout, now, .attempt none⟩

/-- What a worker does after the answer to an attempt, and when. -/
def afterAnswer (t : EvictionTask) (w : Worker) (answeredAt : Duration) :
    Except ClientError Unit → Worker
  | .ok () => { w with wake := answeredAt, step := .announce }
  | .error e =>
    match e.refusal with
    | .gone => { w with wake := answeredAt, step := .leave none }
    | .final => { w with wake := answeredAt, step := .leave (some (.rejected w.pod.key e)) }
    | .temporary =>
      { w with wake := answeredAt.afterPause t.retryInterval, step := .attempt (some e) }

/-- Whether the work breaks off when a worker wakes, for the deadline that it would set. -/
def breaksOff (w : Worker) : Bool :=
  match w.step with
  | .attempt none => Duration.clockEnd < w.deadline
  | .attempt (some _) | .announce | .leave _ => false

/-- The fault of a worker whose last attempt failed and whose deadline has passed. -/
def overdue? (t : EvictionTask) (w : Worker) (last : Option ClientError) : Option EvictionFault :=
  if w.deadline ≤ w.wake then last.map fun e => .timedOut w.pod.key t.timeout e.message else none

/-- What a worker came to when it woke. -/
inductive Act where
  /-- It sleeps again. -/
  | sleeps (worker : Worker)
  /-- It has left. -/
  | left (fault : Option EvictionFault)

variable {σ : Type u}

/-- What a worker does when it wakes. -/
def act (api : ApiServer σ) (t : EvictionTask) (w : Worker) (s : Session σ) : Act × Session σ :=
  match w.step with
  | .leave fault => (.left fault, s)
  | .announce =>
    let (exchange, s) := s.post api w.wake (.createEvent (t.announcement w.pod))
    (.sleeps { w with wake := exchange.answeredAt, step := .leave none }, s)
  | .attempt last =>
    match w.overdue? t last with
    | some fault => (.left (some fault), s)
    | none =>
      let reply := api.ask (t.request w.pod) s.server
      let answeredAt := w.wake + reply.took
      (.sleeps (w.afterAnswer t answeredAt reply.answer),
        { s with
          server := reply.state
          log := s.log ++ [⟨w.wake, t.request w.pod, answeredAt, reply.answer⟩] })

end Worker

end SpotRebalance
