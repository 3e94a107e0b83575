import SpotRebalance.LocalCluster
import SpotRebalance.Rebalancer.Loop

/-! # Watched clusters

A local cluster on a clock, with **probes**: at the time of each one the cluster is changed, and
then what a spectator sees is noted. Probes are due in list order, none before the one in front of
it. Those due while a drain goes on take effect before it ends. -/

namespace SpotRebalance

/-- A visit of a spectator. -/
structure Probe where
  /-- The time of the visit. -/
  due : Duration
  /-- What the spectator changes first. -/
  changes : List LocalCluster.Change
  deriving DecidableEq

/-- What a spectator sees. -/
structure Look where
  /-- The status of the rebalancer. -/
  status : Status
  /-- The names of the drained nodes. -/
  drained : List String
  deriving DecidableEq

/-- A local cluster and its spectator. -/
structure WatchedCluster where
  /-- The cluster. -/
  cluster : LocalCluster
  /-- The reading of the clock. -/
  clock : Duration := ⟨0⟩
  /-- The visits to come. -/
  probes : List Probe
  /-- What the rebalancer shows. -/
  status : Status
  /-- What was seen so far. -/
  looks : List Look := []
  deriving DecidableEq

namespace WatchedCluster

/-- What can be seen now. -/
def look (w : WatchedCluster) : Look := ⟨w.status, w.cluster.drainedNodes⟩

/-- Makes a visit. -/
def visit (w : WatchedCluster) (probe : Probe) : WatchedCluster :=
  let visited := { w with
    cluster := probe.changes.foldl LocalCluster.apply w.cluster
    clock := max w.clock probe.due }
  { visited with looks := visited.looks ++ [visited.look] }

/-- Makes the visits of a list of probes up to a reading, and keeps the others. -/
def visitUntil (reading : Duration) : List Probe → WatchedCluster → WatchedCluster
  | [], w => { w with probes := [] }
  | probe :: probes, w =>
    if probe.due ≤ reading then visitUntil reading probes (w.visit probe)
    else { w with probes := probe :: probes }

/-- What happens until a reading. -/
def waitUntil (reading : Duration) (w : WatchedCluster) : WatchedCluster :=
  let waited := visitUntil reading w.probes w
  { waited with clock := max waited.clock reading }

/-- All visits that are left. -/
def visitAll (w : WatchedCluster) : WatchedCluster :=
  { w.probes.foldl visit w with probes := [] }

/-- The environment of a watched cluster. -/
def environment : LoopEnvironment WatchedCluster where
  nodes w := ⟨w.cluster.listNodes, ⟨0⟩, w⟩
  pods w := ⟨w.cluster.listPods, ⟨0⟩, w⟩
  budgets w := ⟨w.cluster.listBudgets, ⟨0⟩, w⟩
  unschedulablePods w := ⟨w.cluster.listUnschedulable, ⟨0⟩, w⟩
  drain order w :=
    let takes := w.cluster.drainTakes
    let waited := w.waitUntil (w.clock + takes)
    let (answer, after) := waited.cluster.finishDrain order
    ⟨answer, takes, { waited with cluster := after }⟩
  wait := waitUntil
  publish status w := { w with status }

/-- What a spectator of a whole run saw. -/
structure WatchedRun where
  /-- The looks, the last one after everything has ended. -/
  looks : List Look
  /-- When the loop had ended and the last visit was made. -/
  endedAt : Duration
  /-- Why the loop ended. -/
  reason : LoopEnd
  /-- What was measured. -/
  measurements : List Measurement
  /-- The cluster at the end. -/
  cluster : LocalCluster

/-- Runs the loop of a rebalancer on a watched cluster until it is told to stop. The wall clock
stands still. The choices settle the ties in turn, and the one after them goes to the tick. -/
def runLoop (r : Rebalancer) (cluster : LocalCluster) (probes : List Probe) (stop : Duration)
    (ties : List Bool) : WatchedRun :=
  let loop : Loop WatchedCluster := ⟨environment, fun _ => ⟨0, 0⟩, stop⟩
  let run := loop.run (ties ++ [true]) r { cluster, probes, status := r.status }
  let last := run.state.visitAll
  { looks := last.looks ++ [last.look]
    endedAt := max run.endedAt last.clock
    reason := run.reason
    measurements := run.turns.flatMap (·.measurements)
    cluster := last.cluster }

end WatchedCluster

end SpotRebalance
