import SpotRebalance.CommandLine.Arguments

/-! # The program

Reads the command line and the environment, and prints the settings that they give, or why they give
none. The exit code tells the two apart. -/

namespace SpotRebalance.Program

/-- The environment variables of all flags. -/
def environmentVariables : IO (NameTable String) := do
  let found ← Flag.all.filterMapM fun flag => do
    let value ← IO.getEnv (Flag.variableStart ++ flag.capitals)
    return value.map fun value => (flag.capitals, value)
  return .ofList found

/-- The settings in words. -/
def settingsText (s : Settings) : String :=
  let c := s.config
  String.intercalate "\n"
    ["housekeeping interval: " ++ c.housekeepingInterval.text,
      "node drain delay: " ++ c.nodeDrainDelay.text,
      "pod eviction timeout: " ++ c.podEvictionTimeout.text,
      "max graceful termination: " ++ c.maxGracefulTermination.text,
      "on-demand node label: " ++ c.onDemandLabel,
      "spot node label: " ++ c.spotLabel,
      "dry run: " ++ toString c.dryRun,
      "running in cluster: " ++ toString s.runningInCluster,
      "kubeconfig: " ++ s.kubeconfig.getD "-",
      "context: " ++ s.context.getD "-",
      "content type: " ++ s.wireFormat.mediaType,
      "listen address: " ++ s.listenAddress]

/-- What the program prints for its settings, and whether they can be used. -/
def report (settings : Except UsageFault Settings) : String × Bool :=
  match settings with
  | .error fault => (fault.message, false)
  | .ok s =>
    match s.config.validate with
    | .ok _ => (settingsText s, true)
    | .error e => (e.message, false)

/-- Reads the settings and reports them. -/
def run (arguments : List String) : IO UInt32 := do
  let (text, usable) := report (Settings.read arguments (← environmentVariables))
  if usable then
    IO.println text
    return 0
  else
    IO.eprintln text
    return 2

end SpotRebalance.Program

/-- The program. -/
def main (arguments : List String) : IO UInt32 := SpotRebalance.Program.run arguments
