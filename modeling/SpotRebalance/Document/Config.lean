import SpotRebalance.Config
import SpotRebalance.Document.Time

/-! # Documents of configurations

What a configuration leaves out has its default. -/

namespace SpotRebalance.Config

/-- The names of all fields. -/
def fieldNames : List String :=
  ["housekeeping_interval", "node_drain_delay", "pod_eviction_timeout", "max_graceful_termination",
    "on_demand_label", "spot_label", "dry_run"]

/-- Reads a configuration. -/
def ofDocument? : Document.Reader Config := Document.closed? fieldNames fun fields => do
  let usual : Config := {}
  return {
    housekeepingInterval :=
      ← fields.orElse "housekeeping_interval" Duration.ofDocument? usual.housekeepingInterval
    nodeDrainDelay := ← fields.orElse "node_drain_delay" Duration.ofDocument? usual.nodeDrainDelay
    podEvictionTimeout :=
      ← fields.orElse "pod_eviction_timeout" Duration.ofDocument? usual.podEvictionTimeout
    maxGracefulTermination :=
      ← fields.orElse "max_graceful_termination" Duration.ofDocument? usual.maxGracefulTermination
    onDemandLabel := ← fields.orElse "on_demand_label" Document.text? usual.onDemandLabel
    spotLabel := ← fields.orElse "spot_label" Document.text? usual.spotLabel
    dryRun := ← fields.orElse "dry_run" Document.truth? usual.dryRun }

/-- Writes a configuration. -/
def toDocument (c : Config) : Document :=
  .record [("housekeeping_interval", c.housekeepingInterval.toDocument),
    ("node_drain_delay", c.nodeDrainDelay.toDocument),
    ("pod_eviction_timeout", c.podEvictionTimeout.toDocument),
    ("max_graceful_termination", c.maxGracefulTermination.toDocument),
    ("on_demand_label", .text c.onDemandLabel), ("spot_label", .text c.spotLabel),
    ("dry_run", .truth c.dryRun)]

end SpotRebalance.Config
