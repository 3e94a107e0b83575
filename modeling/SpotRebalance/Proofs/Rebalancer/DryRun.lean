import SpotRebalance.Proofs.Rebalancer.Bookkeeping
import SpotRebalance.Proofs.Rebalancer.Comparison
import SpotRebalance.Proofs.Rebalancer.Failure

/-! # Dry runs

A dry run shows what a real one would do. Two rebalancers that differ only in this go through the
same gates and the same listings, find the same node, and part only when it is to be drained
(`twins_cycle`): one names the node, the other orders its drain. So a dry cycle previews a real one
in the same state (`Previews`, `dryRun_previews`). It orders nothing and leaves the cluster alone,
in one cycle and over whole runs (`orders_history_of_dryRun`). -/

namespace SpotRebalance

universe u

variable {σ : Type u}

/-- Journals of listings that are alike in every way are the same. -/
theorem Call.eq_of_listedAlike {calls calls' : List Call}
    (h : List.Forall₂ (ListedAlike Eq Eq) calls calls') :
    calls = calls' := by
  rw [← List.forall₂_eq_eq_eq]
  refine h.imp fun c c' hlisted => ?_
  cases hlisted with
  | unschedulablePods => rfl
  | nodes hagree => rw [hagree.eq]
  | pods hagree => rw [hagree.eq]
  | budgets hagree => rw [hagree.eq]

/-- A result without an attempt is not that of a drain. -/
theorem Outcome.ended?_of_not_attempted {result : Except RebalanceError Outcome}
    (h : Rebalancer.attempted result = false) : ended? result = none := by
  cases result with
  | error e => rfl
  | ok outcome =>
    cases outcome with
    | coolingDown | unschedulablePods | noOnDemandNodes | nothingDrainable => rfl
    | drained | drainFailed | dryRun => cases h

/-- A cycle that no drain ended ordered none. -/
theorem Books.drains_eq_nil {calls : List Call} {effect : CycleEffect} (h : Books calls effect)
    (hended : Outcome.ended? effect.result = none) : Call.drains calls = [] := by
  have hnone := h.ended
  rw [hended, eq_comm] at hnone
  exact List.map_eq_nil_iff.1 hnone

namespace Rebalancer

/-- The rebalancer with drains simulated or not. -/
def withDryRun (r : Rebalancer) (dry : Bool) : Rebalancer :=
  { r with config := { r.config with dryRun := dry }, status := { r.status with dryRun := dry } }

variable {r : Rebalancer} {env : Environment σ} {now : Instant} {s : σ}

/-! ## A dry cycle and a real one -/

/-- **What a dry cycle and a real one come to** from the same state, each with its journal. -/
inductive Twins (r : Rebalancer) (now : Instant) :
    CycleEffect → CycleEffect → List Call → List Call → Prop where
  /-- Neither attempts a drain, and they are the same. -/
  | idle {effect : CycleEffect} {calls : List Call} (hidle : attempted effect.result = false) :
      Twins r now effect effect calls calls
  /-- One names a node, and the other orders the drain of it. -/
  | attempt {shown : List Measurement} {node : Node} {pods : List Pod}
      {answer : Except RebalanceError Unit} {took : Duration} {calls : List Call} :
      Twins r now ⟨.ok (.dryRun node.name pods.length), shown, some (r.cooldownEnd now ⟨0⟩)⟩
        ⟨.ok (.ofDrain node.name pods.length answer),
          shown ++ [.drained (.ofAnswer answer) node.name], some (r.cooldownEnd now took)⟩
        calls (calls ++ [.drain (r.order node pods) answer took])

/-- Simulated or not, a rebalancer sees the same in the same environment. -/
theorem seeAlike_withDryRun (r : Rebalancer) (env : Environment σ) :
    SeeAlike (r.withDryRun true) (r.withDryRun false) env.noted env.noted
      (JournalsMatch Eq (Call.ListedAlike Eq Eq)) Eq where
  nextDrainAt := rfl
  waiting := (Environment.ListsAlike.refl env).noted.unschedulablePods
  survey := by
    refine (Environment.ListsAlike.refl env).noted.survey
      fun nodes nodes' pods pods' budgets hnodes hpods => ?_
    rw [hnodes, hpods]
    rfl
  measurements v v' hv := by
    rw [hv]
    rfl
  onDemand v v' hv := by rw [hv]
  first v v' hv := by
    rw [hv]
    rfl

/-- A drain that is simulated and one that is not part with the order. -/
theorem twins_drain (r : Rebalancer) (env : Environment σ) (now : Instant)
    (shown : List Measurement) (node : Node) (pods : List Pod) :
    ((r.withDryRun true).drain env.noted now shown node pods).Alike
      ((r.withDryRun false).drain env.noted now shown node pods)
        (JournalsMatch Eq (Call.ListedAlike Eq Eq))
      fun effect effect' a b => Twins r now effect effect' a.2 b.2 := by
  rintro ⟨s, calls⟩ ⟨_, calls'⟩ ⟨rfl, hlisted⟩
  -- both start from the same state with the same journal, which holds the listings
  obtain rfl := Call.eq_of_listedAlike hlisted
  rcases hdrain : env.noted.drain ((r.withDryRun false).order node pods) (s, calls)
    with ⟨answer, took, s'⟩
  rw [drain_of_dryRun rfl, drain_of_not_dryRun rfl hdrain]
  rw [Environment.drain_noted] at hdrain
  simp only [(Exchange.noted_eq hdrain).2]
  exact .attempt

/-- **A dry cycle and a real one take the same course up to the drain.** -/
theorem twins_cycle (r : Rebalancer) (env : Environment σ) (now : Instant) (s : σ) :
    Twins r now ((r.withDryRun true).cycle env now s).answer
      ((r.withDryRun false).cycle env now s).answer
      ((r.withDryRun true).calls env now s) ((r.withDryRun false).calls env now s) := by
  have hcycle := alike_cycle now (seeAlike_withDryRun r env)
    (P := fun effect effect' a b => Twins r now effect effect' a.2 b.2)
    (fun effect a b hidle hab => Call.eq_of_listedAlike hab.2 ▸ .idle hidle) (twins_drain r env now)
  have htwins := hcycle (s, []) (s, []) ⟨rfl, .nil⟩
  rw [cycle_noted, cycle_noted] at htwins
  exact htwins

/-- A node that is named counts as an attempt to drain it. -/
theorem attempted_of_dryRun {result : Except RebalanceError Outcome} {node : String} {count : Nat}
    (h : result = .ok (.dryRun node count)) : attempted result = true := by
  rw [h]
  rfl

namespace Twins

variable {effect effect' : CycleEffect} {calls calls' : List Call}

/-- The dry cycle does not end with a drain. -/
theorem ended?_eq_none (h : Twins r now effect effect' calls calls') :
    Outcome.ended? effect.result = none := by
  cases h with
  | idle hidle => exact Outcome.ended?_of_not_attempted hidle
  | attempt => rfl

/-- It asks what the real one asks, up to its order. -/
theorem listings (h : Twins r now effect effect' calls calls') : calls <+: calls' := by
  cases h with
  | idle => exact List.prefix_rfl
  | attempt => exact List.prefix_append ..

/-- **It names a node exactly if the real one orders the drain of it**, of as many pods. -/
theorem named_iff (h : Twins r now effect effect' calls calls') (hnone : Call.drains calls = [])
    {node : String} {count : Nat} :
    effect.result = .ok (.dryRun node count) ↔
      ∃ order answer, Call.drains calls' = [(order, answer)] ∧
      order.node.name = node ∧ order.pods.length = count ∧
      effect'.result = .ok (.ofDrain node count answer) := by
  cases h with
  | idle hidle =>
    constructor
    · intro hnamed
      cases hidle.symm.trans (attempted_of_dryRun hnamed)
    · rintro ⟨order, answer, hdrains, -⟩
      rw [hnone] at hdrains
      cases hdrains
  | @attempt shown listed pods answer took =>
    have hordered : Call.drains (calls ++ [.drain (r.order listed pods) answer took]) =
        [(r.order listed pods, answer)] := by
      rw [Call.drains, List.filterMap_append, ← Call.drains, hnone]
      rfl
    constructor
    · intro hnamed
      obtain ⟨rfl, rfl⟩ := Outcome.dryRun.inj (Except.ok.inj hnamed)
      exact ⟨_, _, hordered, rfl, rfl, rfl⟩
    · rintro ⟨order, answer', hdrains, rfl, rfl, -⟩
      rw [hordered] at hdrains
      cases hdrains
      rfl

/-- It names a node exactly if the real one attempts a drain. -/
theorem attempts_iff (h : Twins r now effect effect' calls calls') :
    attempted effect'.result = true ↔ ∃ node count, effect.result = .ok (.dryRun node count) := by
  cases h with
  | idle hidle =>
    constructor
    · intro hattempted
      cases hidle.symm.trans hattempted
    · rintro ⟨node, count, hnamed⟩
      exact attempted_of_dryRun hnamed
  | attempt => exact ⟨fun _ => ⟨_, _, rfl⟩, fun _ => Outcome.attemptsDrain_ofDrain ..⟩

/-- Without an attempt both come to the same. -/
theorem eq_of_not_attempted (h : Twins r now effect effect' calls calls')
    (hidle : attempted effect'.result = false) :
    effect' = effect := by
  cases h with
  | idle => rfl
  | attempt => simp [attempted] at hidle

/-- Both leave the same record of nodes. -/
theorem nodes_applyAll (h : Twins r now effect effect' calls calls') (record : MetricRecord) :
    (record.applyAll effect.measurements).nodeCounts =
      (record.applyAll effect'.measurements).nodeCounts ∧
      (record.applyAll effect.measurements).podCounts =
        (record.applyAll effect'.measurements).podCounts := by
  cases h with
  | idle => exact ⟨rfl, rfl⟩
  | attempt =>
    rw [MetricRecord.applyAll_append]
    exact ⟨rfl, rfl⟩

/-- With an attempt the dry cycle starts the cooldown at once. -/
theorem nextDrainAt_eq (h : Twins r now effect effect' calls calls')
    (hattempted : attempted effect'.result = true) :
    effect.nextDrainAt = some (now.after r.config.nodeDrainDelay) := by
  cases h with
  | idle hidle => cases hidle.symm.trans hattempted
  | attempt => exact congrArg some (Instant.after_zero_after ..)

end Twins

/-- **A dry cycle shows what a real one does** in the same state. Of each there is what it asked and
what it reported. -/
structure Previews (r : Rebalancer) (now : Instant) (dryCalls realCalls : List Call)
    (dry real : CycleReport) : Prop where
  /-- The dry one names a node and a number of pods exactly if the real one orders one drain, of
  that node and of as many pods. -/
  named : ∀ node count, dry.result = .ok (.dryRun node count) ↔ ∃ order answer,
    Call.drains realCalls = [(order, answer)] ∧ order.node.name = node ∧ order.pods.length = count ∧
      real.result = .ok (.ofDrain node count answer)
  /-- It names a node exactly if the real one attempts a drain. -/
  attempts : attempted real.result = true ↔ ∃ node count, dry.result = .ok (.dryRun node count)
  /-- Otherwise both come to the same, and the rebalancers still differ only in what they
  simulate. -/
  otherwise : attempted real.result = false →
    dry.result = real.result ∧ real.rebalancer = dry.rebalancer.withDryRun false ∧
      real.rebalancer.nextDrainAt = r.nextDrainAt
  /-- Both record the same of nodes. -/
  nodes : ∀ record : MetricRecord,
    (record.applyAll dry.measurements).nodeCounts = (record.applyAll real.measurements).nodeCounts ∧
      (record.applyAll dry.measurements).podCounts = (record.applyAll real.measurements).podCounts
  /-- The dry one asks what the real one asks, up to its order. -/
  listings : dryCalls <+: realCalls
  /-- It orders nothing. -/
  orders : Call.orders dryCalls = []
  /-- It records no drain. -/
  drains : ∀ record : MetricRecord, (record.applyAll dry.measurements).drains = record.drains
  /-- It starts a cooldown at once. -/
  dryEnd : attempted real.result = true →
    dry.rebalancer.nextDrainAt = some (now.after r.config.nodeDrainDelay)
  /-- The real one starts a cooldown after the drain. -/
  realEnd : attempted real.result = true →
    real.rebalancer.nextDrainAt =
      some ((now.after (Call.drainTime realCalls)).after r.config.nodeDrainDelay)

/-- **A dry cycle previews a real one.** -/
theorem previews_runAt (r : Rebalancer) (env : Environment σ) (now : Instant) (s : σ) :
    Previews r now ((r.withDryRun true).calls env now s) ((r.withDryRun false).calls env now s)
      ((r.withDryRun true).runAt env now s).answer
        ((r.withDryRun false).runAt env now s).answer := by
  have htwins := twins_cycle r env now s
  have hbooks := (account_cycle (r.withDryRun true) env now s).books
  -- no drain ends the dry cycle, so it orders and measures none
  have hnone : Call.drains ((r.withDryRun true).calls env now s) = [] :=
    hbooks.drains_eq_nil htwins.ended?_eq_none
  have hundrained : ((r.withDryRun true).cycle env now s).answer.measurements.filterMap
      Measurement.drain? = [] := by
    rw [hbooks.drains, hnone, List.map_nil]
  constructor
  case named => exact fun node count => htwins.named_iff hnone
  case attempts => exact htwins.attempts_iff
  case otherwise =>
    intro hidle
    have heffect := htwins.eq_of_not_attempted hidle
    refine ⟨?_, ?_, runAt_of_not_attempted hidle⟩
    · rw [runAt_answer, runAt_answer, heffect]
    · rw [runAt_answer, runAt_answer, heffect]
      rfl
  case nodes =>
    intro record
    rw [runAt_answer, runAt_answer, MetricRecord.applyAll_append, MetricRecord.applyAll_append]
    exact htwins.nodes_applyAll record
  case listings => exact htwins.listings
  case orders => rw [Call.orders_eq_map_drains, hnone, List.map_nil]
  case drains =>
    intro record
    rw [runAt_answer, MetricRecord.drains_applyAll, List.filterMap_append, hundrained]
    exact List.append_nil _
  case dryEnd => exact htwins.nextDrainAt_eq
  case realEnd => exact fun hattempted => (runAt_of_attempted hattempted).2

/-! ## Dry runs -/

/-- **A rebalancer that only simulates drains never orders one**, over whole runs. -/
theorem orders_history_of_dryRun {r : Rebalancer} (hdry : r.config.dryRun = true)
    (turns : List (Turn σ)) :
    ∀ c ∈ r.history turns, Call.orders c.calls = [] := by
  induction turns generalizing r with
  | nil => simp [history]
  | cons turn turns ih =>
    intro c hc
    rcases List.mem_cons.1 hc with rfl | hc
    · have htranscript := transcript_cycle r turn.env turn.now turn.state
      generalize r.calls turn.env turn.now turn.state = calls at htranscript
      cases htranscript with
      | idle horders => exact horders
      | named => exact Call.orders_listings ..
      | ordered _ _ hreal =>
        rw [hdry] at hreal
        cases hreal
    · exact @ih (r.recordOf turn).report.rebalancer hdry c hc

/-- **A dry run shows what a real run would do.** Of two rebalancers that differ in this only, the
dry one names a node exactly if the other attempts to drain it, of as many pods; otherwise they come
to the same. It orders nothing, records no drain and leaves a cluster alone that listings leave
alone. Over whole runs it never orders a drain. -/
theorem dryRun_previews (r : Rebalancer) (env : Environment σ) (now : Instant) (s : σ) :
    Previews r now ((r.withDryRun true).calls env now s) ((r.withDryRun false).calls env now s)
        ((r.withDryRun true).runAt env now s).answer ((r.withDryRun false).runAt env now s).answer ∧
      (env.ListsQuietly → ((r.withDryRun true).runAt env now s).state = s) ∧
      ∀ turns : List (Turn σ), ∀ c ∈ (r.withDryRun true).history turns,
        Call.orders c.calls = [] := by
  refine ⟨previews_runAt r env now s, fun hquiet => ?_, orders_history_of_dryRun rfl⟩
  exact (course_cycle (r.withDryRun true) env now s).state_eq hquiet (Or.inl rfl)

set_option maxRecDepth 1000 in
/-- In the cluster whose replica can move, a dry run names the node that a real one drains, and
leaves the cluster as it was. -/
theorem dryRun_previews_movable :
    let r := Rebalancer.new {} {}
    let env := LocalCluster.environment
    let dry := (r.withDryRun true).runAt env ⟨0, 0⟩ movable
    let real := (r.withDryRun false).runAt env ⟨0, 0⟩ movable
    dry.answer.result = .ok (.dryRun "worker" 1) ∧ real.answer.result = .ok (.drained "worker" 1) ∧
      Previews r ⟨0, 0⟩ ((r.withDryRun true).calls env ⟨0, 0⟩ movable)
        ((r.withDryRun false).calls env ⟨0, 0⟩ movable) dry.answer real.answer ∧
          dry.state = movable := by
  intro r env dry real
  have hdry : dry.answer.result = .ok (.dryRun "worker" 1) := by with_unfolding_all rfl
  have hreal : real.answer.result = .ok (.drained "worker" 1) := by with_unfolding_all rfl
  obtain ⟨hpreviews, hstate, -⟩ := dryRun_previews r env ⟨0, 0⟩ movable
  exact ⟨hdry, hreal, hpreviews, hstate LocalCluster.listsQuietly_environment⟩

end Rebalancer

end SpotRebalance
