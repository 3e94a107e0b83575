import SpotRebalance.Instant
import SpotRebalance.Metrics.Measurement
import SpotRebalance.Rebalancer.Environment
import SpotRebalance.Rebalancer.Outcome
import SpotRebalance.Rebalancer.Verdict

/-! # Cycles of the rebalancer

One **cycle** passes two gates and then looks for a node to drain. It does nothing but measure while
the cooldown lasts, and while the scheduler has pods that it cannot place. Then it surveys the
cluster and goes through the on-demand nodes in listing order; the first drainable one is drained,
or in a dry run only named. Whether the drain worked or not, the cooldown starts anew at its end.

The deadline of the cooldown is all that one cycle leaves to the next; `Rebalancer.runAt` also keeps
the status that is shown to observers, and reports the measurements of the cycle in order. -/

namespace SpotRebalance

universe u

/-- What observers see of the rebalancer. -/
structure Status where
  /-- How many cycles have ended, failed ones included. -/
  cycles : Nat := 0
  /-- The start of the last cycle. -/
  lastCycleAt : Option Instant := none
  /-- The end of the cooldown. -/
  nextDrainAt : Option Instant := none
  /-- The outcome of the last cycle that did not fail. -/
  lastOutcome : Option Outcome := none
  /-- Why the last cycle failed, if it did. -/
  lastError : Option String := none
  /-- Whether drains are only simulated. -/
  dryRun : Bool := false
  deriving DecidableEq, Inhabited

/-- A rebalancer between two cycles. -/
structure Rebalancer where
  /-- The settings. -/
  config : Config
  /-- How nodes are judged. -/
  policy : Policy
  /-- The end of the cooldown, if a drain was attempted. -/
  nextDrainAt : Option Instant
  /-- What observers see. -/
  status : Status

/-- What a cycle came to, what it measured, and the end of the cooldown after it. -/
structure CycleEffect where
  /-- The outcome, or the listing error that ended the cycle. -/
  result : Except RebalanceError Outcome
  /-- What was measured, in order. -/
  measurements : List Measurement
  /-- The end of the cooldown. -/
  nextDrainAt : Option Instant

/-- What a cycle reports, and the rebalancer after it. -/
structure CycleReport where
  /-- The outcome, or the listing error that ended the cycle. -/
  result : Except RebalanceError Outcome
  /-- What was measured, in order. -/
  measurements : List Measurement
  /-- The rebalancer afterwards. -/
  rebalancer : Rebalancer

/-- How many pods must move from each node where that can be told. -/
def Survey.podCounts (budgets : List DisruptionBudget) (filter : RelocationFilter) (role : Role)
    (loads : List NodeLoad) : List Measurement :=
  loads.filterMap fun load =>
    match filter load.pods budgets with
    | .ok pods => some (.podCount role load.name pods.length)
    | .error _ => none

/-- What a survey shows: the number of nodes of each role, and the pod counts of all nodes. -/
def Survey.measurements (survey : Survey) (filter : RelocationFilter) : List Measurement :=
  [.nodeCount .onDemand survey.snapshot.onDemand.length,
    .nodeCount .spot survey.snapshot.spot.length, .podCountsReset] ++
    podCounts survey.budgets filter .onDemand survey.snapshot.onDemand ++
    podCounts survey.budgets filter .spot survey.snapshot.spot

/-- The first on-demand node that can be drained, with the pods that must move. -/
def Survey.firstDrainable? (survey : Survey) (policy : Policy) : Option (Node × List Pod) :=
  survey.snapshot.onDemand.findSome? fun load =>
    match policy.verdict survey.budgets survey.snapshot.spot load.pods with
    | .drainable pods _ => some (load.node, pods)
    | .skipped _ | .noCandidates | .infeasible _ => none

namespace Rebalancer

variable {σ : Type u}

/-- A rebalancer that has not run yet. -/
def new (config : Config) (policy : Policy) : Rebalancer :=
  { config, policy, nextDrainAt := none, status := { dryRun := config.dryRun } }

/-- The order to drain a node of some pods. -/
def order (r : Rebalancer) (node : Node) (pods : List Pod) : DrainOrder :=
  { node, pods
    gracePeriod := r.config.maxGracefulTermination
    evictionTimeout := r.config.podEvictionTimeout }

/-- The end of a cooldown that starts a duration after `now`. -/
def cooldownEnd (r : Rebalancer) (now : Instant) (elapsed : Duration) : Instant :=
  (now.after elapsed).after r.config.nodeDrainDelay

/-- Drains a node, or only says so in a dry run, and starts the cooldown. -/
def drain (r : Rebalancer) (env : Environment σ) (now : Instant) (shown : List Measurement)
    (node : Node) (pods : List Pod) : Exchange σ CycleEffect :=
  if r.config.dryRun then
    .done ⟨.ok (.dryRun node.name pods.length), shown, some (r.cooldownEnd now ⟨0⟩)⟩
  else fun s =>
    let reply := env.drain (r.order node pods) s
    let next := some (r.cooldownEnd now reply.took)
    match reply.answer with
    | .ok () =>
      ⟨⟨.ok (.drained node.name pods.length), shown ++ [.drained .success node.name], next⟩,
        reply.took, reply.state⟩
    | .error e =>
      ⟨⟨.ok (.drainFailed node.name e.message), shown ++ [.drained .failure node.name], next⟩,
        reply.took, reply.state⟩

/-- Measures the cluster in a cycle that ends at a gate. If a listing fails nothing is measured. -/
def measureOnly (r : Rebalancer) (env : Environment σ) (outcome : Outcome) :
    Exchange σ CycleEffect :=
  (env.survey r.config.roleLabels).map fun
    | .ok survey => ⟨.ok outcome, survey.measurements r.policy.filter, r.nextDrainAt⟩
    | .error _ => ⟨.ok outcome, [], r.nextDrainAt⟩

/-- A cycle that a failed listing ends. -/
def abandon (r : Rebalancer) (e : RebalanceError) : Exchange σ CycleEffect :=
  .done ⟨.error e, [], r.nextDrainAt⟩

/-- Surveys the cluster and drains the first drainable node. -/
def rebalance (r : Rebalancer) (env : Environment σ) (now : Instant) : Exchange σ CycleEffect :=
  (env.survey r.config.roleLabels).bind fun
    | .error e => r.abandon e
    | .ok survey =>
      let shown := survey.measurements r.policy.filter
      match survey.snapshot.onDemand with
      | [] => .done ⟨.ok .noOnDemandNodes, shown, r.nextDrainAt⟩
      | _ :: _ =>
        match survey.firstDrainable? r.policy with
        | some (node, pods) => r.drain env now shown node pods
        | none =>
          .done ⟨.ok (.nothingDrainable survey.snapshot.onDemand.length), shown, r.nextDrainAt⟩

/-- Whether the cooldown lasts at an instant; if so, when it ends. -/
def coolingUntil? (r : Rebalancer) (now : Instant) : Option Instant :=
  r.nextDrainAt.filter fun next => decide (now < next)

/-- One cycle as of `now`. -/
def cycle (r : Rebalancer) (env : Environment σ) (now : Instant) : Exchange σ CycleEffect :=
  match r.coolingUntil? now with
  | some next => r.measureOnly env (.coolingDown next)
  | none =>
    env.unschedulablePods.bind fun
      | .error e => r.abandon e
      | .ok [] => r.rebalance env now
      | .ok (pod :: others) => r.measureOnly env (.unschedulablePods (pod :: others).length)

/-- The name of a result in metrics. -/
def resultLabel : Except RebalanceError Outcome → String
  | .ok outcome => outcome.label
  | .error _ => "error"

/-- The status after a cycle. -/
def nextStatus (status : Status) (now : Instant) (effect : CycleEffect) : Status :=
  { status with
    cycles := status.cycles + 1
    lastCycleAt := some now
    nextDrainAt := effect.nextDrainAt
    lastOutcome :=
      match effect.result with
      | .ok outcome => some outcome
      | .error _ => status.lastOutcome
    lastError :=
      match effect.result with
      | .ok _ => none
      | .error e => some e.message }

/-- Runs one cycle as of `now`, keeps the status and measures the cycle itself. -/
def runAt (r : Rebalancer) (env : Environment σ) (now : Instant) :
    Exchange σ CycleReport := fun s =>
  let reply := r.cycle env now s
  let effect := reply.answer
  { answer :=
      { result := effect.result
        measurements := effect.measurements ++ [.cycle (resultLabel effect.result) reply.took]
        rebalancer :=
          { r with
            nextDrainAt := effect.nextDrainAt
            status := nextStatus r.status now effect } }
    took := reply.took
    state := reply.state }

end Rebalancer

end SpotRebalance
