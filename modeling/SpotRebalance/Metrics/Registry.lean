import SpotRebalance.Metrics.Measurement
import SpotRebalance.Metrics.Series

/-! # Metric registries

A **metric registry** keeps measurements as gauges, counters and one distribution. A gauge holds a
signed 64-bit number, so a count beyond its range wraps around. Reading a gauge or a counter brings
its series into being with the value zero, and it is exported from then on. -/

namespace SpotRebalance

/-- Gauges, counters and the durations of all cycles. -/
structure MetricRegistry where
  /-- The number of nodes of each role. -/
  nodeCounts : Series Role Int := ∅
  /-- The number of relocatable pods of each node. -/
  podCounts : Series (Role × String) Int := ∅
  /-- How often each node was drained with each result. -/
  drains : Series (DrainResult × String) Nat := ∅
  /-- How many cycles ended with each label. -/
  cycles : Series String Nat := ∅
  /-- How long each cycle took, in order. -/
  cycleDurations : List Duration := []
  deriving Inhabited

namespace MetricRegistry

/-- What a gauge shows when it is set to a count. -/
def gauge (count : Nat) : Int := Int.bmod count 18446744073709551616

/-- One more than a counter shows. -/
def increment (old : Option Nat) : Nat := old.getD 0 + 1

/-- Takes in one measurement. -/
def apply (r : MetricRegistry) : Measurement → MetricRegistry
  | .nodeCount role count => { r with nodeCounts := r.nodeCounts.set role (gauge count) }
  | .podCountsReset => { r with podCounts := ∅ }
  | .podCount role node count => { r with podCounts := r.podCounts.set (role, node) (gauge count) }
  | .drained result node => { r with drains := r.drains.update (result, node) increment }
  | .cycle label duration =>
    { r with
      cycles := r.cycles.update label increment
      cycleDurations := r.cycleDurations ++ [duration] }

/-- Takes in measurements one after the other. -/
def applyAll (r : MetricRegistry) (measurements : List Measurement) : MetricRegistry :=
  measurements.foldl apply r

@[simp] theorem applyAll_nil (r : MetricRegistry) : r.applyAll [] = r := rfl

@[simp] theorem applyAll_cons (r : MetricRegistry) (m : Measurement)
    (measurements : List Measurement) :
    r.applyAll (m :: measurements) = (r.apply m).applyAll measurements := rfl

@[simp] theorem applyAll_append (r : MetricRegistry) (first second : List Measurement) :
    r.applyAll (first ++ second) = (r.applyAll first).applyAll second :=
  List.foldl_append

/-- A value to read from a registry. -/
inductive Query where
  /-- The node count of a role. -/
  | nodeCount (role : Role)
  /-- The pod count of a node. -/
  | podCount (role : Role) (node : String)
  /-- How often a node was drained with a result. -/
  | drains (result : DrainResult) (node : String)
  /-- How many cycles ended with a label. -/
  | cycles (label : String)
  deriving DecidableEq

/-- The value of a query; zero if nothing was recorded. -/
def value (r : MetricRegistry) : Query → Int
  | .nodeCount role => (r.nodeCounts.get? role).getD 0
  | .podCount role node => (r.podCounts.get? (role, node)).getD 0
  | .drains result node => (r.drains.get? (result, node)).getD 0
  | .cycles label => (r.cycles.get? label).getD 0

/-- The registry after a query was read: its series exists. -/
def afterRead (r : MetricRegistry) : Query → MetricRegistry
  | .nodeCount role => { r with nodeCounts := r.nodeCounts.ensure role 0 }
  | .podCount role node => { r with podCounts := r.podCounts.ensure (role, node) 0 }
  | .drains result node => { r with drains := r.drains.ensure (result, node) 0 }
  | .cycles label => { r with cycles := r.cycles.ensure label 0 }

/-- Reads a value. -/
def read (r : MetricRegistry) (query : Query) : Int × MetricRegistry :=
  (r.value query, r.afterRead query)

end MetricRegistry

end SpotRebalance
