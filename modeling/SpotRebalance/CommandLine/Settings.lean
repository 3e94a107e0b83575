import SpotRebalance.CommandLine.Flag
import SpotRebalance.Config
import SpotRebalance.Duration.Notation
import SpotRebalance.WireFormat

/-! # Settings of the program

What the flags set, their defaults, and how the value of each flag is read. -/

namespace SpotRebalance

/-- The form of the log. -/
inductive LogFormat where
  /-- Lines for people. -/
  | text
  /-- One JSON object per line. -/
  | json
  deriving DecidableEq

/-- The format of a name. -/
def LogFormat.ofName? (s : String) : Option LogFormat :=
  if s = "text" then some text else if s = "json" then some json else none

/-- Why the command line was refused, or what it asked for instead of a run. -/
inductive UsageFault where
  /-- There is no such flag, or a value without one. -/
  | unknownArgument
  /-- A value is missing, or is not among those possible. -/
  | invalidValue
  /-- A value cannot be read. -/
  | unreadableValue
  /-- A flag is given twice. -/
  | repeatedFlag
  /-- A switch is given a value. -/
  | unneededValue
  /-- Help is asked for. -/
  | helpAsked
  /-- The version is asked for. -/
  | versionAsked
  deriving DecidableEq

/-- The fault in words. -/
def UsageFault.message : UsageFault → String
  | unknownArgument => "unknown argument"
  | invalidValue => "a value is missing or not possible"
  | unreadableValue => "a value cannot be read"
  | repeatedFlag => "a flag is given twice"
  | unneededValue => "a switch takes no value"
  | helpAsked => "flags: see the names of all flags"
  | versionAsked => "version 1"

/-- What the flags set. -/
structure Settings where
  /-- The settings of the control loop. -/
  config : Config := {}
  /-- Whether the program runs in the cluster. -/
  runningInCluster : Bool := true
  /-- The file that says how to reach the cluster. -/
  kubeconfig : Option String := none
  /-- The context to use of that file. -/
  context : Option String := none
  /-- The encoding of requests. -/
  wireFormat : WireFormat := .json
  /-- The address of the HTTP routes. -/
  listenAddress : String := "localhost:9235"
  /-- The form of the log. -/
  logFormat : LogFormat := .text
  deriving DecidableEq, Inhabited

namespace Settings

/-- The truth value of a word. -/
def truth (s : String) : Except UsageFault Bool :=
  if s = "true" then .ok true else if s = "false" then .ok false else .error .invalidValue

/-- The duration that a text writes. -/
def duration (s : String) : Except UsageFault Duration :=
  match Duration.ofText? s with
  | some d => .ok d
  | none => .error .unreadableValue

/-- The settings with the value of a flag. -/
def assign (s : Settings) (flag : Flag) (value : String) : Except UsageFault Settings :=
  match flag with
  | .runningInCluster => (truth value).map fun b => { s with runningInCluster := b }
  | .kubeconfig =>
    if value = "" then .error .invalidValue else .ok { s with kubeconfig := some value }
  | .context => .ok { s with context := some value }
  | .contentType =>
    match WireFormat.ofName value with
    | .ok format => .ok { s with wireFormat := format }
    | .error _ => .error .unreadableValue
  | .housekeepingInterval => (duration value).map fun d =>
    { s with config.housekeepingInterval := d }
  | .nodeDrainDelay => (duration value).map fun d => { s with config.nodeDrainDelay := d }
  | .podEvictionTimeout => (duration value).map fun d => { s with config.podEvictionTimeout := d }
  | .maxGracefulTermination =>
    (duration value).map fun d => { s with config.maxGracefulTermination := d }
  | .listenAddress => .ok { s with listenAddress := value }
  | .onDemandLabel => .ok { s with config.onDemandLabel := value }
  | .spotLabel => .ok { s with config.spotLabel := value }
  | .logFormat =>
    match LogFormat.ofName? value with
    | some format => .ok { s with logFormat := format }
    | none => .error .invalidValue
  | .dryRun => (truth value).map fun b => { s with config.dryRun := b }

end Settings

end SpotRebalance
