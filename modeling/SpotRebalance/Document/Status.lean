import SpotRebalance.Document.Time
import SpotRebalance.Rebalancer.Cycle

/-! # Documents of the status

What observers see of the rebalancer, as they get it over HTTP. An outcome names itself and gives
its details. -/

namespace SpotRebalance

/-- What an outcome says beyond its name. -/
def Outcome.details : Outcome → Document.Fields
  | coolingDown deadline => [("until", deadline.toDocument)]
  | unschedulablePods count => [("count", .ofNat count)]
  | noOnDemandNodes => []
  | nothingDrainable considered => [("considered", .ofNat considered)]
  | drained node pods => [("node", .text node), ("pods", .ofNat pods)]
  | drainFailed node reason => [("node", .text node), ("reason", .text reason)]
  | dryRun node pods => [("node", .text node), ("pods", .ofNat pods)]

/-- Writes an outcome. -/
def Outcome.toDocument (o : Outcome) : Document := .record (("outcome", .text o.label) :: o.details)

/-- Writes a status. -/
def Status.toDocument (s : Status) : Document :=
  .record [("cycles", .ofNat s.cycles),
    ("last_cycle_at", .ofOption Instant.toDocument s.lastCycleAt),
    ("next_drain_at", .ofOption Instant.toDocument s.nextDrainAt),
    ("last_outcome", .ofOption Outcome.toDocument s.lastOutcome),
    ("last_error", .ofOption .text s.lastError), ("dry_run", .truth s.dryRun)]

end SpotRebalance
