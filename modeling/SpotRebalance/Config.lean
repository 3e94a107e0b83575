import SpotRebalance.Duration
import SpotRebalance.RebalanceError
import SpotRebalance.Text.Blank

/-! # Configuration

The settings of the control loop and the rules they must obey: the two intervals that drive loops
are not zero, and the two role labels are different and not blank. `Config.fault?` names the first
rule broken, in the order of its cases. -/

namespace SpotRebalance

/-- The settings of the control loop. -/
structure Config where
  /-- The time between cycles. -/
  housekeepingInterval : Duration := .ofSeconds 10
  /-- The time without drains after each drain. -/
  nodeDrainDelay : Duration := .ofSeconds 600
  /-- How long the eviction of one pod is tried. -/
  podEvictionTimeout : Duration := .ofSeconds 120
  /-- The longest time a pod gets to end. -/
  maxGracefulTermination : Duration := .ofSeconds 120
  /-- The label of on-demand nodes. -/
  onDemandLabel : String := "node-role.kubernetes.io/worker"
  /-- The label of spot nodes. -/
  spotLabel : String := "node-role.kubernetes.io/spot-worker"
  /-- Whether drains are planned but not carried out. -/
  dryRun : Bool := false
  deriving DecidableEq, Inhabited

/-- A rule that a configuration breaks. -/
inductive ConfigFault where
  /-- There is no time between cycles. -/
  | zeroHousekeepingInterval
  /-- There is no time for an eviction. -/
  | zeroEvictionTimeout
  /-- The label of on-demand nodes is blank. -/
  | blankOnDemandLabel
  /-- The label of spot nodes is blank. -/
  | blankSpotLabel
  /-- The two labels are the same. -/
  | sameLabels
  deriving DecidableEq

/-- The broken rule in words. -/
def ConfigFault.reason : ConfigFault → String
  | zeroHousekeepingInterval => "housekeeping interval must be greater than zero"
  | zeroEvictionTimeout => "pod eviction timeout must be greater than zero"
  | blankOnDemandLabel => "on-demand node label must not be empty"
  | blankSpotLabel => "spot node label must not be empty"
  | sameLabels => "on-demand and spot node labels must differ"

namespace Config

/-- The first rule that the configuration breaks. -/
def fault? (c : Config) : Option ConfigFault :=
  if c.housekeepingInterval.isZero then some .zeroHousekeepingInterval
  else if c.podEvictionTimeout.isZero then some .zeroEvictionTimeout
  else if Text.trim c.onDemandLabel == "" then some .blankOnDemandLabel
  else if Text.trim c.spotLabel == "" then some .blankSpotLabel
  else if c.onDemandLabel == c.spotLabel then some .sameLabels
  else none

/-- The configuration, if it breaks no rule. -/
def validate (c : Config) : Except RebalanceError Config :=
  match c.fault? with
  | some fault => .error (.invalidConfig fault.reason)
  | none => .ok c

end Config

end SpotRebalance
