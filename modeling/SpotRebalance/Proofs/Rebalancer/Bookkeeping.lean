import SpotRebalance.Proofs.Rebalancer.NodeMetrics

/-! # The books of a rebalancer

What a rebalancer does is written down in four places: in its status, in the measurements of its
cycles, in those of its drains, and in the journal of the environment. Over every run of a new
rebalancer they tell the same (`runBooks_history`).

The books of one cycle are read off its account: it ended with a drain exactly if it ordered one,
and then it measured that drain with the same answer (`Books`, `Account.books`). Every further cycle
keeps the books of a run in order (`RunBooks`, `runBooks_append`). -/

namespace SpotRebalance

universe u

/-! ## Drains in journals, results and measurements -/

/-- The order and its answer, if a drain was ordered. -/
def Call.drain? : Call → Option (DrainOrder × Except RebalanceError Unit)
  | drain order answer _ => some (order, answer)
  | nodes _ | pods _ | budgets _ | unschedulablePods _ => none

/-- The drains in a journal. -/
def Call.drains (calls : List Call) : List (DrainOrder × Except RebalanceError Unit) :=
  calls.filterMap drain?

/-- The orders in a journal are those of its drains. -/
theorem Call.orders_eq_map_drains (calls : List Call) :
    orders calls = (drains calls).map Prod.fst := by
  rw [orders, drains, List.map_filterMap]
  refine List.filterMap_congr fun c _ => ?_
  cases c <;> rfl

/-- A survey drains nothing. -/
theorem Surveyed.drains_eq_nil {labels : RoleLabels} {calls : List Call}
    {answer : Except RebalanceError Survey} (h : Surveyed labels calls answer) :
    Call.drains calls = [] := by
  cases h <;> rfl

/-- Whether a drain ended an outcome: the node was drained, or its drain failed. -/
def Outcome.endsDrain : Outcome → Bool
  | drained .. | drainFailed .. => true
  | coolingDown .. | unschedulablePods .. | noOnDemandNodes | nothingDrainable ..
  | dryRun .. => false

@[simp] theorem Outcome.endsDrain_ofDrain (node : String) (pods : Nat)
    (answer : Except RebalanceError Unit) :
    (Outcome.ofDrain node pods answer).endsDrain = true := by
  cases answer <;> rfl

@[simp] theorem Outcome.endsDrain_ofNothing (considered : Nat) :
    (Outcome.ofNothing considered).endsDrain = false := by
  rw [ofNothing]
  split <;> rfl

/-- What the measurement of a drain records. -/
def Measurement.drain? : Measurement → Option (DrainResult × String)
  | drained result node => some (result, node)
  | nodeCount .. | podCountsReset | podCount .. | cycle .. => none

/-- The label that the measurement of a cycle records. -/
def Measurement.label? : Measurement → Option String
  | cycle label _ => some label
  | nodeCount .. | podCountsReset | podCount .. | drained .. => none

namespace MetricRecord

variable (record : MetricRecord) (measurements : List Measurement)

/-- **A record keeps every drain that is measured**, in order. -/
theorem drains_applyAll :
    (record.applyAll measurements).drains = record.drains ++
      measurements.filterMap Measurement.drain? := by
  induction measurements generalizing record with
  | nil => exact (List.append_nil _).symm
  | cons m measurements ih =>
    rw [applyAll_cons, ih]
    cases m with
    | drained result node => exact List.append_assoc ..
    | nodeCount | podCountsReset | podCount | cycle => rfl

/-- **A record keeps the label of every cycle that is measured**, in order. -/
theorem cycles_applyAll :
    (record.applyAll measurements).cycles = record.cycles ++
      measurements.filterMap Measurement.label? := by
  induction measurements generalizing record with
  | nil => exact (List.append_nil _).symm
  | cons m measurements ih =>
    rw [applyAll_cons, ih]
    cases m with
    | cycle label took => exact List.append_assoc ..
    | nodeCount | podCountsReset | podCount | drained => rfl

end MetricRecord

section Surveys

variable {filter : RelocationFilter} {m : Measurement}

/-- What is measured of a survey is measured of nodes. -/
theorem Survey.isOfNodes_of_mem_measurements {survey : Survey}
    (h : m ∈ survey.measurements filter) :
    m.isOfNodes = true := by
  rw [measurements_eq] at h
  rcases List.mem_append.1 h with h | h
  · simp only [List.mem_cons, List.not_mem_nil, or_false] at h
    rcases h with rfl | rfl | rfl <;> rfl
  · obtain ⟨_, _, _, rfl⟩ := eq_podCount_of_mem_loadCounts h
    rfl

theorem Survey.isOfNodes_of_mem_shown {answer : Except RebalanceError Survey}
    (h : m ∈ Survey.shown filter answer) :
    m.isOfNodes = true := by
  cases answer with
  | error e => cases h
  | ok survey => exact isOfNodes_of_mem_measurements h

theorem Measurement.drain?_of_isOfNodes (h : m.isOfNodes = true) : m.drain? = none := by
  cases m with
  | nodeCount | podCountsReset | podCount => rfl
  | drained | cycle => cases h

theorem Measurement.label?_of_isOfNodes (h : m.isOfNodes = true) : m.label? = none := by
  cases m with
  | nodeCount | podCountsReset | podCount => rfl
  | drained | cycle => cases h

end Surveys

/-! ## The books of a cycle -/

/-- The outcome of a drain with its answer. -/
def Outcome.ofAnswered (d : DrainOrder × Except RebalanceError Unit) : Outcome :=
  .ofDrain d.1.node.name d.1.pods.length d.2

/-- How a drain with its answer is recorded. -/
def DrainResult.ofAnswered (d : DrainOrder × Except RebalanceError Unit) : DrainResult × String :=
  (.ofAnswer d.2, d.1.node.name)

/-- The outcome of a result, if a drain ended it. -/
def Outcome.ended? : Except RebalanceError Outcome → Option Outcome
  | .ok outcome => if outcome.endsDrain then some outcome else none
  | .error _ => none

/-- **The books of a cycle agree**: what it asked, what it came to and what it measured. -/
structure Books (calls : List Call) (effect : CycleEffect) : Prop where
  /-- It ended with a drain exactly if it ordered one, and then with the outcome of its answer. -/
  ended : (Outcome.ended? effect.result).toList = (Call.drains calls).map Outcome.ofAnswered
  /-- It measured a drain exactly if it ordered one, and then with its answer. -/
  drains : effect.measurements.filterMap Measurement.drain? =
    (Call.drains calls).map DrainResult.ofAnswered
  /-- It has not measured itself yet. -/
  labels : effect.measurements.filterMap Measurement.label? = []

/-- The books agree if there was no drain, and nothing was measured but nodes. -/
theorem Books.of_undrained {calls : List Call} {effect : CycleEffect}
    (hcalls : Call.drains calls = []) (hended : Outcome.ended? effect.result = none)
    (hmeasured : ∀ m ∈ effect.measurements, m.isOfNodes = true) :
    Books calls effect where
  ended := by
    rw [hended, hcalls]
    rfl
  drains := by
    rw [hcalls, List.map_nil, List.filterMap_eq_nil_iff]
    exact fun m hm => Measurement.drain?_of_isOfNodes (hmeasured m hm)
  labels := List.filterMap_eq_nil_iff.2 fun m hm => Measurement.label?_of_isOfNodes (hmeasured m hm)

namespace Rebalancer

variable {r : Rebalancer} {now : Instant} {calls : List Call} {effect : CycleEffect}

/-- **The books of every cycle agree.** -/
theorem Account.books (h : Account r now calls effect) : Books calls effect := by
  cases h with
  | cooling _ hsurvey =>
    exact .of_undrained hsurvey.drains_eq_nil rfl fun _ => Survey.isOfNodes_of_mem_shown
  | unlisted => exact .of_undrained rfl rfl (by simp)
  | waiting _ _ hsurvey =>
    exact .of_undrained hsurvey.drains_eq_nil rfl fun _ => Survey.isOfNodes_of_mem_shown
  | unsurveyed _ hsurvey => exact .of_undrained hsurvey.drains_eq_nil rfl (by simp)
  | idle =>
    exact .of_undrained rfl (by simp [Outcome.ended?]) fun _ => Survey.isOfNodes_of_mem_measurements
  | named => exact .of_undrained rfl rfl fun _ => Survey.isOfNodes_of_mem_measurements
  | @ordered nodes pods budgets survey node moved answer took =>
    -- the survey is measured first, and then the drain
    have hdrains : Call.drains (Call.listings nodes pods budgets ++
        [.drain (r.order node moved) answer took]) =
        [(r.order node moved, answer)] := rfl
    have hsurvey : ∀ m ∈ survey.measurements r.policy.filter, m.isOfNodes = true := fun _ =>
      Survey.isOfNodes_of_mem_measurements
    constructor
    case ended =>
      rw [hdrains, Outcome.ended?, Outcome.endsDrain_ofDrain, if_pos rfl]
      rfl
    case drains =>
      rw [hdrains, List.filterMap_append,
        List.filterMap_eq_nil_iff.2 fun m hm => Measurement.drain?_of_isOfNodes (hsurvey m hm)]
      rfl
    case labels =>
      rw [List.filterMap_append,
        List.filterMap_eq_nil_iff.2 fun m hm => Measurement.label?_of_isOfNodes (hsurvey m hm)]
      rfl

end Rebalancer

/-! ## The books of a run -/

namespace CycleRecord

/-- The outcome of the cycle, if a drain ended it. -/
def ended? (c : CycleRecord) : Option Outcome := Outcome.ended? c.report.result

/-- The drains that the cycle ordered. -/
def drains (c : CycleRecord) : List (DrainOrder × Except RebalanceError Unit) := Call.drains c.calls

/-- The name of the result in metrics. -/
def label (c : CycleRecord) : String := Rebalancer.resultLabel c.report.result

/-- The outcome of the cycle, unless it failed. -/
def outcome? (c : CycleRecord) : Option Outcome := c.report.result.toOption

/-- Why the cycle failed, if it did. -/
def failure? (c : CycleRecord) : Option String :=
  match c.report.result with
  | .ok _ => none
  | .error e => some e.message

end CycleRecord

/-- **The books of a run agree** with each other and with what observers see of the rebalancer after
it. -/
structure RunBooks (run : List CycleRecord) (r : Rebalancer) (record : MetricRecord) : Prop where
  /-- Every cycle is counted. -/
  cycles : r.status.cycles = run.length
  /-- The label of every cycle is recorded, in order. -/
  labels : record.cycles = run.map (·.label)
  /-- Every drain is recorded with its answer, in order. -/
  drains : record.drains = (run.flatMap (·.drains)).map DrainResult.ofAnswered
  /-- The cycles that a drain ended are those that ordered one, in order, with the outcomes of their
  answers. -/
  ended : run.filterMap (·.ended?) = (run.flatMap (·.drains)).map Outcome.ofAnswered
  /-- Each cycle ended with the drain that it ordered and measured, if any. -/
  each : ∀ c ∈ run, c.ended?.toList = c.drains.map Outcome.ofAnswered ∧
    c.report.measurements.filterMap Measurement.drain? = c.drains.map DrainResult.ofAnswered
  /-- A dry run orders no drain and measures none. -/
  dryRun : ∀ c ∈ run, ∀ node pods, c.report.result = .ok (.dryRun node pods) →
    c.drains = [] ∧ c.report.measurements.filterMap Measurement.drain? = []
  /-- Observers see the end of the cooldown. -/
  nextDrainAt : r.status.nextDrainAt = r.nextDrainAt
  /-- They see when the last cycle started. -/
  lastCycleAt : r.status.lastCycleAt = run.getLast?.map (·.now)
  /-- They see the outcome of the last cycle that did not fail. -/
  lastOutcome : r.status.lastOutcome = (run.filterMap (·.outcome?)).getLast?
  /-- They see an error if the last cycle failed, and only then. -/
  lastError : r.status.lastError = run.getLast?.bind (·.failure?)

namespace Rebalancer

variable {σ : Type u}

/-- What the cycle of a turn does. -/
def recordOf (r : Rebalancer) (turn : Turn σ) : CycleRecord :=
  ⟨turn.now, r.nextDrainAt, (r.runAt turn.env turn.now turn.state).answer,
    r.calls turn.env turn.now turn.state⟩

/-- The rebalancer after the cycles of a run. -/
def afterTurns : Rebalancer → List (Turn σ) → Rebalancer
  | r, [] => r
  | r, turn :: turns => (r.recordOf turn).report.rebalancer.afterTurns turns

theorem history_cons (r : Rebalancer) (turn : Turn σ) (turns : List (Turn σ)) :
    r.history (turn :: turns) = r.recordOf turn ::
      (r.recordOf turn).report.rebalancer.history turns := rfl

/-- The cycle of a turn ends with a drain exactly if it orders one. -/
theorem ended?_recordOf (r : Rebalancer) (turn : Turn σ) :
    (r.recordOf turn).ended?.toList = (r.recordOf turn).drains.map Outcome.ofAnswered :=
  (account_cycle r turn.env turn.now turn.state).books.ended

/-- It measures the drains that it orders. -/
theorem drains_recordOf (r : Rebalancer) (turn : Turn σ) :
    (r.recordOf turn).report.measurements.filterMap Measurement.drain? =
      (r.recordOf turn).drains.map DrainResult.ofAnswered := by
  have hbooks := (account_cycle r turn.env turn.now turn.state).books.drains
  rw [recordOf, runAt_answer, List.filterMap_append, hbooks]
  exact List.append_nil _

/-- It measures itself, once. -/
theorem labels_recordOf (r : Rebalancer) (turn : Turn σ) :
    (r.recordOf turn).report.measurements.filterMap Measurement.label? =
      [(r.recordOf turn).label] := by
  have hbooks := (account_cycle r turn.env turn.now turn.state).books.labels
  rw [recordOf, runAt_answer, List.filterMap_append, hbooks]
  rfl

/-- Its outcome is the last one; if it fails, that stays as it was. -/
theorem lastOutcome_recordOf (r : Rebalancer) (turn : Turn σ) :
    (r.recordOf turn).report.rebalancer.status.lastOutcome =
      (r.recordOf turn).outcome?.or r.status.lastOutcome := by
  cases hresult : (r.cycle turn.env turn.now turn.state).answer.result <;>
    simp [CycleRecord.outcome?, recordOf, runAt_answer, nextStatus, hresult, Except.toOption]

/-- Its failure is the last error, if it fails. -/
theorem lastError_recordOf (r : Rebalancer) (turn : Turn σ) :
    (r.recordOf turn).report.rebalancer.status.lastError = (r.recordOf turn).failure? := by
  cases hresult : (r.cycle turn.env turn.now turn.state).answer.result <;>
    simp [CycleRecord.failure?, recordOf, runAt_answer, nextStatus, hresult]

variable {run : List CycleRecord} {r : Rebalancer} {record : MetricRecord}

/-- **The books still agree after another cycle.** -/
theorem runBooks_append (h : RunBooks run r record) (turn : Turn σ) :
    RunBooks (run ++ [r.recordOf turn]) (r.recordOf turn).report.rebalancer
      (record.after [r.recordOf turn]) where
  cycles := by
    rw [List.length_append, List.length_singleton, ← h.cycles]
    rfl
  labels := by
    rw [MetricRecord.after, List.flatMap_singleton, MetricRecord.cycles_applyAll, h.labels,
      labels_recordOf, List.map_append, List.map_singleton]
  drains := by
    rw [MetricRecord.after, List.flatMap_singleton, MetricRecord.drains_applyAll, h.drains,
      drains_recordOf, List.flatMap_append, List.map_append, List.flatMap_singleton]
  ended := by
    rw [List.filterMap_append, h.ended, List.flatMap_append, List.map_append,
      List.flatMap_singleton, ← ended?_recordOf]
    -- the cycle adds its outcome exactly if a drain ended it
    cases hended : (r.recordOf turn).ended? <;> simp [hended]
  each := List.forall_mem_append.2
    ⟨h.each, List.forall_mem_singleton.2 ⟨ended?_recordOf r turn, drains_recordOf r turn⟩⟩
  dryRun := by
    refine List.forall_mem_append.2 ⟨h.dryRun, List.forall_mem_singleton.2
      fun node pods hresult => ?_⟩
    have hnone := ended?_recordOf r turn
    rw [CycleRecord.ended?, hresult, eq_comm] at hnone
    have hdrains : (r.recordOf turn).drains = [] := List.map_eq_nil_iff.1 hnone
    exact ⟨hdrains, by rw [drains_recordOf, hdrains, List.map_nil]⟩
  nextDrainAt := rfl
  lastCycleAt := by
    rw [List.getLast?_concat]
    rfl
  lastOutcome := by
    -- a cycle that fails adds no outcome, and the last one stays
    rw [List.filterMap_append, List.getLast?_append, ← h.lastOutcome, lastOutcome_recordOf]
    cases houtcome : (r.recordOf turn).outcome? <;> simp [houtcome]
  lastError := by
    rw [List.getLast?_concat, lastError_recordOf]
    rfl

/-- The books agree after every run, if they did before it. -/
theorem runBooks_after (h : RunBooks run r record) (turns : List (Turn σ)) :
    RunBooks (run ++ r.history turns) (r.afterTurns turns) (record.after (r.history turns)) := by
  induction turns generalizing run r record with
  | nil => simpa [history, afterTurns, MetricRecord.after] using h
  | cons turn turns ih =>
    -- the first cycle is added to the run, and the others follow it
    have hnext := ih (runBooks_append h turn)
    rw [← MetricRecord.after_append, List.append_assoc] at hnext
    exact hnext

end Rebalancer

end SpotRebalance
