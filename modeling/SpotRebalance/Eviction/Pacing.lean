import SpotRebalance.Duration

/-! # Pacing of drains

How many evictions run at once, how long to pause between attempts and between checks, and how much
longer than their grace period pods may take to disappear. -/

namespace SpotRebalance

/-- The pace of a drain. -/
structure Pacing where
  /-- How many evictions run at once. -/
  concurrency : Nat := 5
  /-- The pause between attempts of a refused eviction. -/
  retryInterval : Duration := .ofSeconds 10
  /-- The pause between checks for deleted pods. -/
  pollInterval : Duration := .ofSeconds 5
  /-- The time granted to pods beyond their grace period. -/
  headroom : Duration := .ofSeconds 30
  /-- At least one eviction runs. -/
  concurrency_pos : 0 < concurrency := by decide

namespace Pacing

instance : Inhabited Pacing := ⟨{}⟩

/-- The pacing with a number of evictions at once; at least one. -/
def withConcurrency (p : Pacing) (concurrency : Nat) : Pacing :=
  { p with
    concurrency := max concurrency 1
    concurrency_pos := Nat.lt_of_lt_of_le Nat.one_pos (Nat.le_max_right ..) }

/-- The pacing on one line. -/
def text (p : Pacing) : String :=
  "KubeDrainExecutor \x7b concurrency: " ++ toString p.concurrency ++ ", retry_interval: " ++
    p.retryInterval.text ++ ", poll_interval: " ++ p.pollInterval.text ++ ", deletion_headroom: " ++
    p.headroom.text ++ ", .. \x7d"

end Pacing

end SpotRebalance
