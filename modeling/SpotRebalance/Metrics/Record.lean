import SpotRebalance.Metrics.Measurement
import SpotRebalance.Metrics.Series

/-! # Records of measurements

A **metric record** keeps measurements as they are: the latest node count of each role, the latest
pod count of each node since the last reset, and every drain and every cycle in the order
reported. -/

namespace SpotRebalance

/-- The measurements that hold after a sequence of them. -/
structure MetricRecord where
  /-- The latest node count of each role. -/
  nodeCounts : Series Role Nat := ∅
  /-- The latest pod count of each node since the last reset. -/
  podCounts : Series (Role × String) Nat := ∅
  /-- Every drain, in order. -/
  drains : List (DrainResult × String) := []
  /-- The label of every cycle, in order. -/
  cycles : List String := []
  deriving Inhabited

namespace MetricRecord

/-- Takes in one measurement. -/
def apply (r : MetricRecord) : Measurement → MetricRecord
  | .nodeCount role count => { r with nodeCounts := r.nodeCounts.set role count }
  | .podCountsReset => { r with podCounts := ∅ }
  | .podCount role node count => { r with podCounts := r.podCounts.set (role, node) count }
  | .drained result node => { r with drains := r.drains ++ [(result, node)] }
  | .cycle label _ => { r with cycles := r.cycles ++ [label] }

/-- Takes in measurements one after the other. -/
def applyAll (r : MetricRecord) (measurements : List Measurement) : MetricRecord :=
  measurements.foldl apply r

@[simp] theorem applyAll_nil (r : MetricRecord) : r.applyAll [] = r := rfl

@[simp] theorem applyAll_cons (r : MetricRecord) (m : Measurement)
    (measurements : List Measurement) :
    r.applyAll (m :: measurements) = (r.apply m).applyAll measurements := rfl

@[simp] theorem applyAll_append (r : MetricRecord) (first second : List Measurement) :
    r.applyAll (first ++ second) = (r.applyAll first).applyAll second :=
  List.foldl_append

end MetricRecord

end SpotRebalance
