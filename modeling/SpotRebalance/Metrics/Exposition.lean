import SpotRebalance.Metrics.Registry
import SpotRebalance.Text.FloatDigits

/-! # Exposition of metrics

The text by which a registry is scraped, as a list of lines: for each family a help line, a type
line and its samples, and at the end a line that says so. The samples of a family stand in text
order; those of the histogram of cycle durations give the sum of all durations in seconds, their
number, and for each upper bound how many did not exceed it. Label values are written as they are:
one with line breaks takes several lines, and a line of it that starts like a header line parts the
lines before it from those after it. -/

namespace SpotRebalance.Exposition

/-- A label and its value. -/
def label (name value : String) : String := name ++ "=\"" ++ value ++ "\""

/-- A sample line. -/
def sample (name : String) (labels : List String) (value : String) : String :=
  name ++ "\x7b" ++ String.intercalate "," labels ++ "\x7d " ++ value

/-- The header lines of a family. -/
def header (name help kind : String) : List String :=
  ["# HELP " ++ name ++ " " ++ help ++ ".", "# TYPE " ++ name ++ " " ++ kind]

/-- The lines of a text. A line feed ends a line, with a carriage return before it. -/
def linesOf (text : String) : List String :=
  match ((text.toList.splitOn '\n').map String.ofList).reverse with
  | [] => []
  | last :: ended => (last :: ended.map (fun line => (line.dropSuffix "\r").toString)).reverse

/-- Adds a line in front of lines that stand in runs, each opened by a header line; the last of the
lines to come are not yet opened. -/
def addLine (line : String) : List String × List String → List String × List String
  | (run, done) =>
    if line.startsWith "#" then ([], line :: (run.mergeSort (fun a b => decide (a ≤ b)) ++ done))
    else (line :: run, done)

/-- The lines of samples, each run of them in text order. -/
def sorted (samples : List String) : List String :=
  let (run, done) := (samples.flatMap linesOf).foldr addLine ([], [])
  run.mergeSort (fun a b => decide (a ≤ b)) ++ done

/-- The node counts. -/
def nodeCounts (r : MetricRegistry) : List String :=
  let name := "spot_rescheduler_nodes_count"
  header name "Number of ready nodes by role" "gauge" ++
    sorted (r.nodeCounts.entries.map fun e =>
      sample name [label "node_role" e.1.name] (toString e.2))

/-- The pod counts. -/
def podCounts (r : MetricRegistry) : List String :=
  let name := "spot_rescheduler_node_pods_count"
  header name "Number of relocatable pods on a node" "gauge" ++
    sorted (r.podCounts.entries.map fun e =>
      sample name [label "node_role" e.1.1.name, label "node" e.1.2] (toString e.2))

/-- The drains. -/
def drains (r : MetricRegistry) : List String :=
  let name := "spot_rescheduler_node_drain"
  header name "Drain attempts by result" "counter" ++
    sorted (r.drains.entries.map fun e =>
      sample (name ++ "_total") [label "result" e.1.1.name, label "node" e.1.2] (toString e.2))

/-- The cycles. -/
def cycles (r : MetricRegistry) : List String :=
  let name := "spot_rescheduler_cycles"
  header name "Housekeeping cycles by outcome" "counter" ++
    sorted (r.cycles.entries.map fun e =>
      sample (name ++ "_total") [label "outcome" e.1] (toString e.2))

/-- The upper bounds of the buckets in seconds: from ten milliseconds, each twice the one before. -/
def bounds : List Float := (List.range 12).map fun i => 0.01 * Float.ofNat (Nat.pow 2 i)

/-- A duration in seconds. -/
def inSeconds (d : Duration) : Float := Float.ofNat d.seconds + Float.ofNat d.subsecond / 1000000000

/-- The cycle durations. -/
def cycleDurations (r : MetricRegistry) : List String :=
  let name := "spot_rescheduler_cycle_duration_seconds"
  let observed := r.cycleDurations.map inSeconds
  let bucket (bound : String) (count : Nat) : String :=
    sample (name ++ "_bucket") [label "le" bound] (toString count)
  header name "Time taken by a housekeeping cycle" "histogram" ++
    [name ++ "_sum " ++ Text.floatText (observed.foldl (· + ·) 0),
      name ++ "_count " ++ toString observed.length] ++
    bounds.map (fun bound => bucket (Text.floatText bound) (observed.countP fun x => x ≤ bound)) ++
    [bucket "+Inf" observed.length]

/-- All lines. -/
def lines (r : MetricRegistry) : List String :=
  nodeCounts r ++ podCounts r ++ drains r ++ cycles r ++ cycleDurations r ++ ["# EOF"]

/-- The media type of an exposition. -/
def mediaType : String := "text/plain; version=0.0.4; charset=utf-8"

end SpotRebalance.Exposition
