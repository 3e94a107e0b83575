import SpotRebalance.Metrics.Registry
import SpotRebalance.Proofs.Rebalancer.NodeMetrics

/-! # Scrapes during a cycle

A registry takes in the measurements of a cycle one by one, and may be scraped before, between and
after them (`MetricEvent`). Each scrape shows the registry after as many measurements as were taken
in by then (`MetricRegistry.scrapes_eq_map`). A cycle that surveys the cluster resets the pod counts
and then measures them one by one, so its scrapes show in turn the counts from before the cycle,
none, and ever more of the new ones, but never both old and new ones (`MetricRegistry.Refills`,
`Rebalancer.refills_history`). Scrapes may thus show a part of a survey
(`Rebalancer.not_showsWhole`). -/

namespace SpotRebalance

universe u

variable {σ : Type u}

/-- What may happen to a registry during a cycle. -/
inductive MetricEvent where
  /-- It takes in a measurement. -/
  | recorded (m : Measurement)
  /-- It is scraped. -/
  | scraped

/-- The measurements among some events. -/
def MetricEvent.measurements (events : List MetricEvent) : List Measurement :=
  events.filterMap fun
    | recorded m => some m
    | scraped => none

namespace MetricRegistry

variable {registry other : MetricRegistry} {measurements counts others : List Measurement}

/-- **What the scrapes show** while some events happen. -/
def scrapes : MetricRegistry → List MetricEvent → List MetricRegistry
  | _, [] => []
  | registry, .recorded m :: events => scrapes (registry.apply m) events
  | registry, .scraped :: events => registry :: scrapes registry events

/-- **Each scrape shows the measurements that were taken in by then**, and later ones show no
fewer. -/
theorem scrapes_eq_map (registry : MetricRegistry) (events : List MetricEvent) :
    ∃ points : List Nat, points.Pairwise (· ≤ ·) ∧
      registry.scrapes events = points.map fun p =>
        registry.applyAll ((MetricEvent.measurements events).take p) := by
  induction events generalizing registry with
  | nil => exact ⟨[], .nil, rfl⟩
  | cons event events ih =>
    cases event with
    | recorded m =>
      -- all scrapes to come show the measurement
      obtain ⟨points, hsorted, hscrapes⟩ := ih (registry.apply m)
      refine ⟨points.map (· + 1), List.pairwise_map.2 (hsorted.imp Nat.succ_le_succ), ?_⟩
      rw [scrapes, hscrapes, List.map_map]
      rfl
    | scraped =>
      obtain ⟨points, hsorted, hscrapes⟩ := ih registry
      refine ⟨0 :: points, .cons (fun _ _ => Nat.zero_le _) hsorted, ?_⟩
      rw [scrapes, hscrapes]
      rfl

/-! ## Pod counts -/

/-- What follows for the pod counts depends on them only. -/
theorem podCounts_applyAll_congr (h : registry.podCounts = other.podCounts) :
    (registry.applyAll measurements).podCounts = (other.applyAll measurements).podCounts := by
  induction measurements generalizing registry other with
  | nil => exact h
  | cons m measurements ih =>
    refine ih ?_
    cases m with
    | podCountsReset => rfl
    | podCount role node count => exact congrArg (·.set (role, node) (gauge count)) h
    | nodeCount | drained | cycle => exact h

/-- Measurements that say nothing of nodes leave the pod counts. -/
theorem podCounts_applyAll_of_not_isOfNodes (h : ∀ m ∈ measurements, m.isOfNodes = false) :
    (registry.applyAll measurements).podCounts = registry.podCounts := by
  induction measurements generalizing registry with
  | nil => rfl
  | cons m measurements ih =>
    obtain ⟨hm, hrest⟩ := List.forall_mem_cons.1 h
    rw [applyAll_cons, ih hrest]
    cases m with
    | nodeCount | podCountsReset | podCount => cases hm
    | drained | cycle => rfl

/-- The pod counts at a stage of a refill: those from before at first, and then ever more of the new
ones, from none to all. -/
def refilled (before : Series (Role × String) Int) (counts : List Measurement) :
    Nat → Series (Role × String) Int
  | 0 => before
  | stage + 1 => (applyAll {} (counts.take stage)).podCounts

/-- **The pod counts are refilled** while some events happen. -/
structure Refills (registry : MetricRegistry) (counts : List Measurement)
    (events : List MetricEvent) : Prop where
  /-- Each scrape shows a stage, and none shows an earlier one than a scrape before it. -/
  staged : ∃ stages : List Nat, stages.Pairwise (· ≤ ·) ∧
    (registry.scrapes events).map (·.podCounts) = stages.map (refilled registry.podCounts counts)
  /-- Afterwards all new counts are there. -/
  complete : (registry.applyAll (MetricEvent.measurements events)).podCounts =
    refilled registry.podCounts counts (counts.length + 1)

/-- **Scrapes show whole surveys**: each one shows the pod counts from before some events or those
from after them. -/
def ShowsWhole (registry : MetricRegistry) (events : List MetricEvent) : Prop :=
  ∀ shown ∈ registry.scrapes events, shown.podCounts = registry.podCounts ∨
    shown.podCounts = (registry.applyAll (MetricEvent.measurements events)).podCounts

/-- The measurements of a survey go through the stages: its reset is the third of them. -/
theorem podCounts_applyAll_take (survey : Survey) (filter : RelocationFilter)
    (hothers : ∀ m ∈ others, m.isOfNodes = false) (p : Nat) :
    (registry.applyAll ((survey.measurements filter ++ others).take p)).podCounts =
      refilled registry.podCounts (survey.loadCounts filter) (p - 2) := by
  rw [Survey.measurements_eq]
  match p with
  | 0 | 1 | 2 => rfl
  | k + 3 =>
    -- the reset has taken away what was there, and what is measured after the counts leaves them
    have hrest : ∀ m ∈ others.take (k - (survey.loadCounts filter).length), m.isOfNodes = false :=
      fun m hm => hothers m (List.mem_of_mem_take hm)
    change (applyAll _ ((survey.loadCounts filter ++ others).take k)).podCounts =
      (applyAll {} ((survey.loadCounts filter).take k)).podCounts
    rw [List.take_append, applyAll_append, podCounts_applyAll_of_not_isOfNodes hrest]
    exact podCounts_applyAll_congr rfl

/-- A survey refills the pod counts, whatever of other things is measured after it. -/
theorem refills_of_measurements {survey : Survey} {filter : RelocationFilter}
    {events : List MetricEvent}
    (hevents : MetricEvent.measurements events = survey.measurements filter ++ others)
    (hothers : ∀ m ∈ others, m.isOfNodes = false) :
    registry.Refills (survey.loadCounts filter) events where
  staged := by
    obtain ⟨points, hsorted, hscrapes⟩ := registry.scrapes_eq_map events
    refine ⟨points.map (· - 2),
      List.pairwise_map.2 (hsorted.imp fun hle => Nat.sub_le_sub_right hle 2), ?_⟩
    rw [hscrapes, List.map_map, List.map_map, hevents]
    refine List.map_congr_left fun p _ => ?_
    exact podCounts_applyAll_take survey filter hothers p
  complete := by
    rw [hevents, applyAll_append, podCounts_applyAll_of_not_isOfNodes hothers,
      Survey.measurements_eq, applyAll_append, refilled, List.take_length]
    exact podCounts_applyAll_congr rfl

/-- Without measurements of nodes every scrape shows the pod counts as they were. -/
theorem podCounts_scrapes_of_not_isOfNodes {events : List MetricEvent}
    (h : ∀ m ∈ MetricEvent.measurements events, m.isOfNodes = false) :
    ∀ shown ∈ registry.scrapes events, shown.podCounts = registry.podCounts := by
  obtain ⟨points, -, hscrapes⟩ := registry.scrapes_eq_map events
  intro shown hshown
  rw [hscrapes] at hshown
  obtain ⟨p, -, rfl⟩ := List.mem_map.1 hshown
  exact podCounts_applyAll_of_not_isOfNodes fun m hm => h m (List.mem_of_mem_take hm)

end MetricRegistry

namespace Rebalancer

/-- **What scrapes show during a cycle.** Take any cycle of a run, any registry, and scrapes at any
times between the measurements of the cycle. If the cycle surveyed the cluster, the scrapes show how
the pod counts are refilled with those of the survey. If it did not, they show them as they were. -/
theorem refills_history (r : Rebalancer) (turns : List (Turn σ)) (registry : MetricRegistry)
    (events : List MetricEvent) {c : CycleRecord} (hc : c ∈ r.history turns)
    (hevents : MetricEvent.measurements events = c.report.measurements) :
    (∀ nodes pods budgets, Call.Surveys c.calls nodes pods budgets →
        registry.Refills
          (Survey.loadCounts ⟨.ofListing r.config.roleLabels nodes pods, budgets⟩ r.policy.filter)
          events) ∧
      (Call.Unsurveyed c.calls → ∀ shown ∈ registry.scrapes events,
        shown.podCounts = registry.podCounts) := by
  have hmeasured := measured_history r turns c hc
  constructor
  · intro nodes pods budgets hsurvey
    obtain ⟨others, hmeasurements, hothers⟩ := hmeasured.surveyed nodes pods budgets hsurvey
    exact MetricRegistry.refills_of_measurements (hevents.trans hmeasurements) hothers
  · intro hnone
    refine MetricRegistry.podCounts_scrapes_of_not_isOfNodes ?_
    rw [hevents]
    exact hmeasured.unsurveyed hnone

/-- Two cycles ten seconds apart, in a cluster in which nothing changes. -/
def steadyRun : List CycleRecord :=
  (new {} {}).history [⟨LocalCluster.environment, movable, ⟨0, 0⟩⟩,
    ⟨LocalCluster.environment, movable, ⟨10, 0⟩⟩]

/-- A registry after the first of them. -/
def steadyRegistry : MetricRegistry :=
  MetricRegistry.applyAll {} ((steadyRun.take 1).flatMap (·.report.measurements))

/-- The second of them, with scrapes after its reset, after its first count and at its end. -/
def steadyEvents : List MetricEvent :=
  [.recorded (.nodeCount .onDemand 1), .recorded (.nodeCount .spot 1),
    .recorded .podCountsReset, .scraped,
    .recorded (.podCount .onDemand "worker" 1), .scraped, .recorded (.podCount .spot "spot" 0),
    .recorded (.cycle "cooling_down" ⟨0⟩), .scraped]

/-- The second cycle surveys the same cluster again, and drains nothing while the cooldown lasts. -/
theorem second_steadyRun :
    ∃ second ∈ steadyRun, MetricEvent.measurements steadyEvents = second.report.measurements ∧
      second.calls =
        [.nodes (.ok [worker, spotWorker]), .pods (.ok [replica]),
          .budgets (.ok movable.budgets)] := by
  refine ⟨_, List.mem_of_getElem? (i := 1) rfl, ?_, ?_⟩
  · with_unfolding_all rfl
  · with_unfolding_all rfl

/-- The scrapes show no count, one count and both. -/
theorem podCounts_steadyEvents :
    (steadyRegistry.scrapes steadyEvents).map (·.podCounts.entries) =
      [[], [((.onDemand, "worker"), 1)], [((.onDemand, "worker"), 1), ((.spot, "spot"), 0)]] := by
  decide +kernel

/-- The second cycle refills the pod counts, and its scrapes show it. -/
theorem refills_history_steady :
    ∃ second ∈ steadyRun, MetricEvent.measurements steadyEvents = second.report.measurements ∧
      steadyRegistry.Refills (Survey.loadCounts
        ⟨.ofListing (new {} {}).config.roleLabels [worker, spotWorker] [replica], movable.budgets⟩
        Relocation.podsToMove) steadyEvents := by
  obtain ⟨second, hmem, hmeasurements, hcalls⟩ := second_steadyRun
  refine ⟨second, hmem, hmeasurements, ?_⟩
  exact (refills_history (new {} {}) _ steadyRegistry steadyEvents hmem hmeasurements).1 _ _ _
    ⟨by simp [hcalls], by simp [hcalls], by simp [hcalls]⟩

/-- **Scrapes show a part of a survey.** In a steady cluster the pod counts are the same before and
after a cycle, and a scrape between its measurements shows none. -/
theorem not_showsWhole :
    ∃ second ∈ steadyRun, MetricEvent.measurements steadyEvents = second.report.measurements ∧
      ¬ steadyRegistry.ShowsWhole steadyEvents := by
  obtain ⟨second, hmem, hmeasurements, -⟩ := second_steadyRun
  refine ⟨second, hmem, hmeasurements, fun hwhole => ?_⟩
  obtain ⟨shown, hshown, hnone⟩ :
      ∃ shown ∈ steadyRegistry.scrapes steadyEvents, shown.podCounts.entries = [] := by
    rw [← List.mem_map, podCounts_steadyEvents]
    exact List.mem_cons_self
  rcases hwhole shown hshown with hbefore | hafter
  · rw [hbefore] at hnone
    exact absurd hnone (by decide +kernel)
  · rw [hafter] at hnone
    exact absurd hnone (by decide +kernel)

end Rebalancer

end SpotRebalance
