/-! # Flags

The flags of the program. All of them but the switch for dry runs take a value, and each can be set
by an environment variable of the same name in capitals. -/

namespace SpotRebalance

/-- A flag of the program. -/
inductive Flag where
  /-- Whether the program runs in the cluster. -/
  | runningInCluster
  /-- The file that says how to reach the cluster. -/
  | kubeconfig
  /-- The context to use of that file. -/
  | context
  /-- The encoding of requests. -/
  | contentType
  /-- The time between cycles. -/
  | housekeepingInterval
  /-- The time without drains after each drain. -/
  | nodeDrainDelay
  /-- How long the eviction of one pod is tried. -/
  | podEvictionTimeout
  /-- The longest time a pod gets to end. -/
  | maxGracefulTermination
  /-- The address of the HTTP routes. -/
  | listenAddress
  /-- The label of on-demand nodes. -/
  | onDemandLabel
  /-- The label of spot nodes. -/
  | spotLabel
  /-- The form of the log. -/
  | logFormat
  /-- Whether drains are only planned. -/
  | dryRun
  deriving DecidableEq

namespace Flag

/-- All flags, in the order in which the environment is read. -/
def all : List Flag :=
  [runningInCluster, kubeconfig, context, contentType, housekeepingInterval, nodeDrainDelay,
    podEvictionTimeout, maxGracefulTermination, listenAddress, onDemandLabel, spotLabel,
    logFormat, dryRun]

/-- The name of a flag, without the dashes in front. -/
def name : Flag → String
  | runningInCluster => "running-in-cluster"
  | kubeconfig => "kubeconfig"
  | context => "context"
  | contentType => "kube-api-content-type"
  | housekeepingInterval => "housekeeping-interval"
  | nodeDrainDelay => "node-drain-delay"
  | podEvictionTimeout => "pod-eviction-timeout"
  | maxGracefulTermination => "max-graceful-termination"
  | listenAddress => "listen-address"
  | onDemandLabel => "on-demand-node-label"
  | spotLabel => "spot-node-label"
  | logFormat => "log-format"
  | dryRun => "dry-run"

/-- The flag of a name. -/
def ofName? (s : String) : Option Flag := all.find? (·.name == s)

/-- Whether a flag takes a value. -/
def takesValue : Flag → Bool
  | dryRun => false
  | _ => true

/-- The environment variable of a flag, without the common beginning of all. -/
def capitals (f : Flag) : String :=
  String.ofList (f.name.toList.map fun c => if c = '-' then '_' else c.toUpper)

/-- What the names of all environment variables begin with. -/
def variableStart : String := "SPOT_RESCHEDULER_"

end Flag

end SpotRebalance
