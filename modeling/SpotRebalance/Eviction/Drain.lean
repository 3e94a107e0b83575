import SpotRebalance.ClusterApi.Listing
import SpotRebalance.Eviction.Board
import SpotRebalance.Eviction.Deletion
import SpotRebalance.Rebalancer.Cycle

/-! # Draining a node through the API

A drain announces its start, evicts all pods, waits until they have left the node, and announces how
it ended. If an eviction fails the pods are not waited for; of several failures the first in time
counts.

A drain that is interrupted announces no end. Nothing that follows such a drain takes place, so
neither does the cycle that ordered it (`runAt`). -/

namespace SpotRebalance.ClusterApi

universe u

variable {σ : Type u}

/-! ## Drains -/

/-- The event that announces a drain. -/
def drainStarted (order : DrainOrder) : ClusterEvent :=
  ⟨.node order.node.name, .normal, "DrainStarted",
    "evicting " ++ toString order.pods.length ++ " pods to move them onto spot nodes"⟩

/-- The event that closes a drain. -/
def drainEnded (order : DrainOrder) : Except EvictionFault Unit → ClusterEvent
  | .ok () => ⟨.node order.node.name, .normal, "DrainSucceeded", "all pods evicted"⟩
  | .error fault => ⟨.node order.node.name, .warning, "DrainFailed", fault.message⟩

/-- What a drain that comes to an end answers. -/
def outcome (order : DrainOrder) : Except EvictionFault Unit → Except RebalanceError Unit
  | .ok () => .ok ()
  | .error fault => .error (.drainFailed order.node.name fault.message)

/-- The task of the workers of a drain. -/
def evictionTask (pacing : Pacing) (order : DrainOrder) : EvictionTask :=
  ⟨order.node.name, order.gracePeriod, order.evictionTimeout, pacing.retryInterval⟩

/-- The board of a drain when it has run. -/
def evictions (api : ApiServer σ) (pacing : Pacing) (order : DrainOrder) (s : Session σ) :
    Board σ :=
  let task := evictionTask pacing order
  Board.run api task pacing.concurrency (Board.mostSteps task order.pods)
    (Board.start task pacing.concurrency order.pods s)

/-- Evicts all pods. -/
def evictAll (api : ApiServer σ) (pacing : Pacing) (order : DrainOrder) :
    Exchange (Session σ) (Except Interruption (Except EvictionFault Unit)) := fun s =>
  let board := evictions api pacing order s
  ⟨board.result, ⟨board.session.clock.nanos - s.clock.nanos⟩, board.session⟩

/-- Waits until the pods of a drain have left the node. -/
def awaitDeparture (api : ApiServer σ) (pacing : Pacing) (order : DrainOrder) :
    Exchange (Session σ) (Except Interruption (Except EvictionFault Unit)) :=
  match order.gracePeriod.add? pacing.headroom with
  | none => .done (.error .clockExhausted)
  | some timeout => Deletion.await api order.node.name order.pods pacing.pollInterval timeout

/-- Evicts all pods and waits until they have left the node. -/
def emptyNode (api : ApiServer σ) (pacing : Pacing) (order : DrainOrder) :
    Exchange (Session σ) (Except Interruption (Except EvictionFault Unit)) :=
  (evictAll api pacing order).andThen fun
    | .error fault => .done (.ok (.error fault))
    | .ok () => awaitDeparture api pacing order

/-- Drains a node. -/
def drain (api : ApiServer σ) (pacing : Pacing) (order : DrainOrder) :
    Exchange (Session σ) (Except Interruption (Except RebalanceError Unit)) :=
  (Session.announce api (drainStarted order)).bind fun () =>
    (emptyNode api pacing order).andThen fun result =>
      (Session.announce api (drainEnded order result)).map fun () => .ok (outcome order result)

/-! ## Cycles -/

/-- A session in which drains are ordered. -/
structure Attachment (σ : Type u) where
  /-- The session. -/
  session : Session σ
  /-- What interrupted a drain, if something did. -/
  interruption : Option Interruption := none

/-- An exchange of the session. -/
def Attachment.lift {α : Type} (x : Exchange (Session σ) α) : Exchange (Attachment σ) α := fun a =>
  let reply := x a.session
  ⟨reply.answer, reply.took, { a with session := reply.state }⟩

/-- Orders a drain. After an interruption the answer does not matter. -/
def Attachment.drain (api : ApiServer σ) (pacing : Pacing) (order : DrainOrder) :
    Exchange (Attachment σ) (Except RebalanceError Unit) := fun a =>
  let reply := ClusterApi.drain api pacing order a.session
  match reply.answer with
  | .ok result => ⟨result, reply.took, { a with session := reply.state }⟩
  | .error why => ⟨.ok (), reply.took, ⟨reply.state, some why⟩⟩

/-- The environment that reaches the cluster through the API. -/
def environment (api : ApiServer σ) (pacing : Pacing) : Environment (Attachment σ) where
  nodes := Attachment.lift (listNodes api)
  pods := Attachment.lift (listPods api)
  budgets := Attachment.lift (listBudgets api)
  unschedulablePods := Attachment.lift (listUnschedulable api)
  drain := Attachment.drain api pacing

/-- Runs one cycle through the API as of `now`, unless its drain is interrupted. -/
def runAt (api : ApiServer σ) (pacing : Pacing) (r : Rebalancer) (now : Instant) :
    Exchange (Session σ) (Except Interruption CycleReport) := fun s =>
  let reply := r.runAt (environment api pacing) now { session := s }
  match reply.state.interruption with
  | some why => ⟨.error why, reply.took, reply.state.session⟩
  | none => ⟨.ok reply.answer, reply.took, reply.state.session⟩

end SpotRebalance.ClusterApi
