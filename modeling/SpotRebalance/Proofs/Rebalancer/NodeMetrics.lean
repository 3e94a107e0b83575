import SpotRebalance.Proofs.Metrics.Latest
import SpotRebalance.Proofs.Rebalancer.Cooldown

/-! # Node metrics over whole runs

A cycle that lists nodes, pods and budgets completely measures what it saw, whatever it then does.
Any other cycle measures nothing of nodes (`Call.Measured`, `measured_history`). So over a run the
record of measurements always shows the last complete survey: the number of nodes of each role, and
the count of relocatable pods of each managed node that has one, and of no other node, whatever
nodes were there before (`MetricRecord.Shows`, `record_shows_last_survey`). -/

namespace SpotRebalance

universe u

variable {σ : Type u}

/-! ## What cycles measure -/

/-- **Measurements are those of a complete survey**, if the journal holds one, and otherwise say
nothing of nodes. -/
structure Call.Measured (labels : RoleLabels) (filter : RelocationFilter) (calls : List Call)
    (measurements : List Measurement) : Prop where
  /-- Of nodes, what the survey showed is measured and nothing else. -/
  surveyed : ∀ nodes pods budgets, Surveys calls nodes pods budgets → ∃ others,
    measurements = Survey.measurements ⟨.ofListing labels nodes pods, budgets⟩ filter ++ others ∧
      ∀ m ∈ others, m.isOfNodes = false
  /-- Without a survey nothing is measured of nodes. -/
  unsurveyed : Unsurveyed calls → ∀ m ∈ measurements, m.isOfNodes = false

namespace Call.Measured

variable {labels : RoleLabels} {filter : RelocationFilter} {calls : List Call}
  {measurements : List Measurement}

/-- A survey is measured if it succeeds. -/
theorem of_surveyed {answer : Except RebalanceError Survey} (h : Surveyed labels calls answer) :
    Measured labels filter calls (Survey.shown filter answer) where
  surveyed nodes pods budgets hsurvey := by
    rw [h.answer_eq hsurvey]
    exact ⟨[], (List.append_nil _).symm, by simp⟩
  unsurveyed hnone := by
    cases answer with
    | error e => simp [Survey.shown]
    | ok survey =>
      obtain ⟨nodes, pods, budgets, hsurvey⟩ := h.surveys
      exact absurd hsurvey (hnone nodes pods budgets)

/-- What is asked first about pods that wait is not measured. -/
theorem cons (h : Measured labels filter calls measurements)
    (waiting : Except RebalanceError (List Pod)) :
    Measured labels filter (.unschedulablePods waiting :: calls) measurements where
  surveyed nodes pods budgets hsurvey := h.surveyed nodes pods budgets (surveys_cons_iff.1 hsurvey)
  unsurveyed hnone := h.unsurveyed fun nodes pods budgets hsurvey =>
    hnone nodes pods budgets (surveys_cons_iff.2 hsurvey)

/-- An order to drain is not measured as a node. -/
theorem append_drain (h : Measured labels filter calls measurements) (order : DrainOrder)
    (answer : Except RebalanceError Unit) (took : Duration) :
    Measured labels filter (calls ++ [.drain order answer took]) measurements where
  surveyed nodes pods budgets hsurvey :=
    h.surveyed nodes pods budgets (surveys_append_drain_iff.1 hsurvey)
  unsurveyed hnone := h.unsurveyed fun nodes pods budgets hsurvey =>
    hnone nodes pods budgets (surveys_append_drain_iff.2 hsurvey)

/-- Other measurements may follow. -/
theorem append (h : Measured labels filter calls measurements) {others : List Measurement}
    (hothers : ∀ m ∈ others, m.isOfNodes = false) :
    Measured labels filter calls (measurements ++ others) where
  surveyed nodes pods budgets hsurvey := by
    obtain ⟨earlier, rfl, hearlier⟩ := h.surveyed nodes pods budgets hsurvey
    refine ⟨earlier ++ others, List.append_assoc .., fun m hm => ?_⟩
    exact (List.mem_append.1 hm).elim (hearlier m) (hothers m)
  unsurveyed hnone m hm := (List.mem_append.1 hm).elim (h.unsurveyed hnone m) (hothers m)

/-- A journal with the listings of a cycle is measured as their survey. -/
theorem listings (nodes : List Node) (pods : List Pod) (budgets : List DisruptionBudget) :
    Measured labels filter (Call.listings nodes pods budgets)
      (Survey.measurements ⟨.ofListing labels nodes pods, budgets⟩ filter) :=
  (of_surveyed (.complete nodes pods budgets)).cons (.ok [])

end Call.Measured

/-- **What a cycle measures of nodes is what it surveyed.** -/
theorem Rebalancer.Account.measured {r : Rebalancer} {now : Instant} {calls : List Call}
    {effect : CycleEffect} (h : Account r now calls effect) :
    Call.Measured r.config.roleLabels r.policy.filter calls effect.measurements := by
  cases h with
  | cooling _ hsurvey => exact .of_surveyed hsurvey
  | unlisted => exact ⟨fun _ _ _ hsurvey => absurd hsurvey.nodes (by simp), by simp⟩
  | waiting _ _ hsurvey => exact (Call.Measured.of_surveyed hsurvey).cons _
  | unsurveyed _ hsurvey => exact (Call.Measured.of_surveyed hsurvey).cons _
  | idle _ hsurvey =>
    subst hsurvey
    exact .listings ..
  | named _ hsurvey =>
    subst hsurvey
    exact .listings ..
  | ordered _ hsurvey =>
    subst hsurvey
    exact ((Call.Measured.listings ..).append_drain ..).append (by simp [Measurement.isOfNodes])

/-! ## What a record shows -/

/-- **A record shows a survey**: how many nodes of each role there are, and how many pods must move
from each managed node on which that can be told, and from no other. -/
structure MetricRecord.Shows (record : MetricRecord) (labels : RoleLabels)
    (filter : RelocationFilter) (nodes : List Node) (pods : List Pod)
    (budgets : List DisruptionBudget) : Prop where
  /-- The number of nodes of a role. -/
  nodeCounts : ∀ role, role ≠ .other →
    record.nodeCounts.get? role = some (nodes.countP fun n => labels.roleOf n == role)
  /-- The number of pods that must move from a node. -/
  podCounts : ∀ role name count, record.podCounts.get? (role, name) = some count ↔
    role ≠ .other ∧ ∃ node ∈ nodes, node.name = name ∧ labels.roleOf node = role ∧
      ∃ moved, filter (Snapshot.boundTo (Snapshot.live pods) name) budgets = .ok moved ∧
        moved.length = count

/-- What a record shows of nodes depends on its counts only. -/
theorem MetricRecord.Shows.congr {record other : MetricRecord} {labels : RoleLabels}
    {filter : RelocationFilter} {nodes : List Node} {pods : List Pod}
    {budgets : List DisruptionBudget} (h : record.Shows labels filter nodes pods budgets)
    (heq : other.nodeCounts = record.nodeCounts ∧ other.podCounts = record.podCounts) :
    other.Shows labels filter nodes pods budgets where
  nodeCounts := by
    rw [heq.1]
    exact h.nodeCounts
  podCounts := by
    rw [heq.2]
    exact h.podCounts

section Shows

variable {labels : RoleLabels} {filter : RelocationFilter} {nodes : List Node} {pods : List Pod}
  {budgets : List DisruptionBudget} {role : Role} {name : String} {count : Nat}

/-- What is measured of loads: the count of each on which it can be told. -/
theorem Survey.mem_podCounts_iff {loads : List NodeLoad} {m : Measurement} :
    m ∈ podCounts budgets filter role loads ↔
      ∃ load ∈ loads, ∃ moved, filter load.pods budgets = .ok moved ∧
        m = .podCount role load.name moved.length := by
  rw [podCounts, List.mem_filterMap]
  refine exists_congr fun load => and_congr_right fun _ => ?_
  cases filter load.pods budgets with
  | error e => simp
  | ok moved => simp [eq_comm]

/-- The counts of all loads, as they follow the reset. -/
def Survey.loadCounts (survey : Survey) (filter : RelocationFilter) : List Measurement :=
  podCounts survey.budgets filter .onDemand survey.snapshot.onDemand ++
    podCounts survey.budgets filter .spot survey.snapshot.spot

/-- The counts of loads are measured last. -/
theorem Survey.measurements_eq (survey : Survey) (filter : RelocationFilter) :
    survey.measurements filter =
      [.nodeCount .onDemand survey.snapshot.onDemand.length,
        .nodeCount .spot survey.snapshot.spot.length, .podCountsReset] ++
          survey.loadCounts filter :=
  List.append_assoc ..

/-- Counts of loads are all there is among them. -/
theorem Survey.eq_podCount_of_mem_loadCounts {survey : Survey} {m : Measurement}
    (h : m ∈ survey.loadCounts filter) :
    ∃ role name count, m = .podCount role name count := by
  rcases List.mem_append.1 h with h | h
  all_goals
    obtain ⟨load, -, moved, -, rfl⟩ := mem_podCounts_iff.1 h
    exact ⟨_, _, _, rfl⟩

/-- A count that is measured is that of a listed node of the role. -/
theorem Survey.podCount_mem_loadCounts_iff (hdistinct : (nodes.map (·.name)).Nodup) :
    .podCount role name count ∈ Survey.loadCounts ⟨.ofListing labels nodes pods, budgets⟩ filter ↔
      role ≠ .other ∧ ∃ node ∈ nodes, node.name = name ∧ labels.roleOf node = role ∧
        ∃ moved, filter (Snapshot.boundTo (Snapshot.live pods) name) budgets = .ok moved ∧
          moved.length = count := by
  have hofRole {kept : List NodeLoad} {role' : Role} (hother : role' ≠ .other)
      (hkept : (Snapshot.ofListing labels nodes pods).ofRole? role' = some kept) :
      .podCount role name count ∈ podCounts budgets filter role' kept ↔ role = role' ∧
        role ≠ .other ∧ ∃ node ∈ nodes, node.name = name ∧ labels.roleOf node = role ∧
          ∃ moved, filter (Snapshot.boundTo (Snapshot.live pods) name) budgets = .ok moved ∧
            moved.length = count := by
    rw [mem_podCounts_iff]
    constructor
    · rintro ⟨load, hload, moved, hmoved, heq⟩
      obtain ⟨rfl, rfl, rfl⟩ := Measurement.podCount.inj heq
      obtain ⟨hlisted, hrole⟩ := (Snapshot.mem_ofListing_iff hkept).1 hload
      obtain ⟨hnode, hpods⟩ := (Snapshot.mem_loads_iff hdistinct).1 hlisted
      exact ⟨rfl, hother, load.node, hnode, rfl, hrole, moved, hpods ▸ hmoved, rfl⟩
    · rintro ⟨rfl, -, node, hnode, rfl, hrole, moved, hmoved, rfl⟩
      refine ⟨⟨node, Snapshot.boundTo (Snapshot.live pods) node.name⟩, ?_, moved, hmoved, rfl⟩
      exact (Snapshot.mem_ofListing_iff hkept).2
        ⟨(Snapshot.mem_loads_iff hdistinct).2 ⟨hnode, rfl⟩, hrole⟩
  rw [loadCounts, List.mem_append, hofRole (by simp) rfl, hofRole (by simp) rfl]
  constructor
  · rintro (⟨-, h⟩ | ⟨-, h⟩) <;> exact h
  · rintro ⟨hother, h⟩
    cases role with
    | onDemand => exact Or.inl ⟨rfl, hother, h⟩
    | spot => exact Or.inr ⟨rfl, hother, h⟩
    | other => exact absurd rfl hother

/-- **A record shows a survey after its measurements**, whatever it showed before. -/
theorem MetricRecord.shows_applyAll_measurements (record : MetricRecord)
    (hdistinct : (nodes.map (·.name)).Nodup) :
    (record.applyAll (Survey.measurements ⟨.ofListing labels nodes pods, budgets⟩ filter)).Shows
      labels filter nodes pods budgets := by
  rw [Survey.measurements_eq, applyAll_append]
  constructor
  · intro role hother
    rw [nodeCounts_applyAll]
    · cases role with
      | onDemand =>
        have hkept : (Snapshot.ofListing labels nodes pods).ofRole? .onDemand = some _ := rfl
        simp [apply, Snapshot.length_ofListing hkept]
      | spot =>
        have hkept : (Snapshot.ofListing labels nodes pods).ofRole? .spot = some _ := rfl
        simp [apply, Snapshot.length_ofListing hkept]
      | other => exact absurd rfl hother
    · intro m hm
      obtain ⟨_, _, _, rfl⟩ := Survey.eq_podCount_of_mem_loadCounts hm
      rfl
  · intro role name count
    rw [← Survey.podCount_mem_loadCounts_iff hdistinct]
    refine get?_podCounts_iff rfl (fun hreset => ?_) fun a b ha hb => ?_
    · obtain ⟨_, _, _, heq⟩ := Survey.eq_podCount_of_mem_loadCounts hreset
      cases heq
    · -- the pods that are bound to a name decide the count, so none is measured twice in different
      -- ways
      obtain ⟨-, -, -, -, -, moved, hmoved, rfl⟩ :=
        (Survey.podCount_mem_loadCounts_iff hdistinct).1 ha
      obtain ⟨-, -, -, -, -, moved', hmoved', rfl⟩ :=
        (Survey.podCount_mem_loadCounts_iff hdistinct).1 hb
      cases hmoved.symm.trans hmoved'
      rfl

end Shows

/-- A record after the cycles of a run. -/
def MetricRecord.after (record : MetricRecord) (run : List CycleRecord) : MetricRecord :=
  record.applyAll (run.flatMap (·.report.measurements))

@[simp] theorem MetricRecord.after_append (record : MetricRecord)
    (first second : List CycleRecord) :
    record.after (first ++ second) = (record.after first).after second := by
  simp [after]

namespace Rebalancer

variable {σ : Type u}

/-- **Every cycle of a run measures what it surveyed.** -/
theorem measured_history (r : Rebalancer) (turns : List (Turn σ)) :
    ∀ c ∈ r.history turns,
      Call.Measured r.config.roleLabels r.policy.filter c.calls c.report.measurements := by
  induction turns generalizing r with
  | nil => simp [history]
  | cons turn turns ih =>
    intro c hc
    rcases List.mem_cons.1 hc with rfl | hc
    · exact (account_cycle r turn.env turn.now turn.state).measured.append
        (by simp [Measurement.isOfNodes])
    · exact ih (r.runAt turn.env turn.now turn.state).answer.rebalancer c hc

/-- Cycles that survey nothing leave what a record shows of nodes. -/
theorem after_of_unsurveyed {labels : RoleLabels} {filter : RelocationFilter}
    {run : List CycleRecord}
    (hmeasured : ∀ c ∈ run, Call.Measured labels filter c.calls c.report.measurements)
    (hnone : ∀ c ∈ run, Call.Unsurveyed c.calls) (record : MetricRecord) :
    (record.after run).nodeCounts = record.nodeCounts ∧
      (record.after run).podCounts = record.podCounts := by
  refine MetricRecord.nodes_applyAll fun m hm => ?_
  obtain ⟨c, hc, hm⟩ := List.mem_flatMap.1 hm
  exact (hmeasured c hc).unsurveyed (hnone c hc) m hm

/-- A cycle that surveys leaves a record that shows its survey. -/
theorem shows_after_singleton {labels : RoleLabels} {filter : RelocationFilter} {c : CycleRecord}
    {nodes : List Node} {pods : List Pod} {budgets : List DisruptionBudget}
    (hmeasured : Call.Measured labels filter c.calls c.report.measurements)
    (hsurvey : Call.Surveys c.calls nodes pods budgets) (hdistinct : (nodes.map (·.name)).Nodup)
    (record : MetricRecord) : (record.after [c]).Shows labels filter nodes pods budgets := by
  obtain ⟨others, hmeasurements, hothers⟩ := hmeasured.surveyed nodes pods budgets hsurvey
  rw [MetricRecord.after, List.flatMap_singleton, hmeasurements, MetricRecord.applyAll_append]
  exact (record.shows_applyAll_measurements hdistinct).congr (MetricRecord.nodes_applyAll hothers)

/-- **A record shows the last survey.** Take any cycle of a run in which node names are distinct. If
it surveyed the cluster completely, the record shows that survey after the cycle and until another
one does so. If it did not, what the record shows of nodes is as before the cycle. -/
theorem record_shows_last_survey (r : Rebalancer) (turns : List (Turn σ)) (record : MetricRecord)
    {before later : List CycleRecord} {c : CycleRecord}
    (hrun : before ++ c :: later <+: r.history turns) :
    (∀ nodes pods budgets, Call.Surveys c.calls nodes pods budgets → (nodes.map (·.name)).Nodup →
        (∀ d ∈ later, Call.Unsurveyed d.calls) →
        (record.after (before ++ c :: later)).Shows r.config.roleLabels r.policy.filter nodes pods
          budgets) ∧
      (Call.Unsurveyed c.calls →
        (record.after (before ++ [c])).nodeCounts = (record.after before).nodeCounts ∧
          (record.after (before ++ [c])).podCounts = (record.after before).podCounts) := by
  have hmeasured : ∀ d ∈ c :: later,
      Call.Measured r.config.roleLabels r.policy.filter d.calls d.report.measurements :=
    fun d hd => measured_history r turns d (hrun.subset (List.mem_append_right _ hd))
  obtain ⟨hfirst, hlater⟩ := List.forall_mem_cons.1 hmeasured
  constructor
  · intro nodes pods budgets hsurvey hdistinct hnone
    have hshown := shows_after_singleton hfirst hsurvey hdistinct (record.after before)
    -- the later cycles survey nothing, so the record still shows what it did right after the cycle
    rw [List.append_cons, MetricRecord.after_append, MetricRecord.after_append]
    exact hshown.congr (after_of_unsurveyed hlater hnone _)
  · intro hnone
    rw [MetricRecord.after_append]
    exact after_of_unsurveyed (List.forall_mem_singleton.2 hfirst)
      (List.forall_mem_singleton.2 hnone) _

/-- A run of three cycles: the first drains a node, which has left when the second one surveys the
cluster during the cooldown, and the third one cannot list the budgets. -/
theorem record_shows_last_survey_departed :
    let departed : LocalCluster := { movable with nodes := [spotWorker], pods := [] }
    let turns : List (Turn LocalCluster) := [⟨LocalCluster.environment, movable, ⟨0, 0⟩⟩,
      ⟨LocalCluster.environment, departed, ⟨300, 0⟩⟩,
      ⟨LocalCluster.environment, { departed with failing := [.disruptionBudgets] }, ⟨310, 0⟩⟩]
    let run := (Rebalancer.new {} {}).history turns
    (MetricRecord.after {} (run.take 1)).podCounts.get? (.onDemand, "worker") = some 1 ∧
      (MetricRecord.after {} run).Shows (Rebalancer.new {} {}).config.roleLabels
        Relocation.podsToMove [spotWorker] []
        movable.budgets ∧
      (MetricRecord.after {} run).podCounts = (MetricRecord.after {} (run.take 2)).podCounts := by
  intro departed turns run
  have hbefore : (MetricRecord.after {} (run.take 1)).podCounts.get? (.onDemand, "worker") =
      some 1 := by
    with_unfolding_all rfl
  have hcalls : run.map (·.calls) =
      [Call.listings [worker, spotWorker] [replica] movable.budgets ++
          [.drain ⟨worker, [replica], .ofSeconds 120, .ofSeconds 120⟩ (.ok ()) (.ofSeconds 5)],
        [.nodes (.ok [spotWorker]), .pods (.ok []), .budgets (.ok movable.budgets)],
        [.nodes (.ok [spotWorker]), .pods (.ok []),
          .budgets (.error (.listingFailed .disruptionBudgets LocalCluster.injectedReason))]] := by
    with_unfolding_all rfl
  obtain ⟨first, second, third, hrun⟩ : ∃ first second third, run = [first, second, third] :=
    ⟨_, _, _, rfl⟩
  simp only [hrun, List.map_cons, List.map_nil, List.cons.injEq, and_true] at hcalls
  obtain ⟨-, hsecond, hthird⟩ := hcalls
  have hunsurveyed : Call.Unsurveyed third.calls :=
    fun _ _ _ hsurvey => absurd hsurvey.budgets (by simp [hthird])
  have hprefix : [first, second, third] <+: (Rebalancer.new {} {}).history turns :=
    ⟨[], (List.append_nil _).trans hrun.symm⟩
  refine ⟨hbefore, ?_, ?_⟩
  · have hprefix : [first] ++ second :: [third] <+: (Rebalancer.new {} {}).history turns := hprefix
    rw [hrun]
    exact (record_shows_last_survey _ turns {} hprefix).1 _ _ _
      ⟨by simp [hsecond], by simp [hsecond], by simp [hsecond]⟩ (by decide)
        (by simpa using hunsurveyed)
  · have hprefix : [first, second] ++ third :: [] <+: (Rebalancer.new {} {}).history turns :=
      hprefix
    rw [hrun]
    exact ((record_shows_last_survey _ turns {} hprefix).2 hunsurveyed).2

end Rebalancer

end SpotRebalance
