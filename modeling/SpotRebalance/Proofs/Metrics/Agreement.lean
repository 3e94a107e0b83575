import SpotRebalance.Metrics.Exposition
import SpotRebalance.Metrics.Record

/-! # Records and registries agree

A record keeps the measurements it takes in; a registry keeps only what its gauges, counters and
distribution need. Told the same, they agree (`MetricRegistry.Agrees`): a gauge reads the latest
count that the record keeps, a counter how often the record holds its drain or its cycle, and the
distribution has a duration for every cycle. They agree at first, each measurement keeps them so
(`Agrees.apply`), and so does each value that is read, although reading leaves a series behind
(`Agrees.read`). So they agree after any measurements and reads in any order
(`MetricRegistry.agrees_useAll`), as long as gauges can show what was counted. -/

namespace SpotRebalance

/-- Whether a gauge can show what is counted. -/
def Measurement.FitsGauge : Measurement → Prop
  | nodeCount _ count | podCount _ _ count => count < 9223372036854775808
  | podCountsReset | drained .. | cycle .. => True

/-- What may happen to a record and a registry that are told the same. -/
inductive MetricUse where
  /-- Both take in a measurement. -/
  | measured (m : Measurement)
  /-- A value of the registry is read. -/
  | read (query : MetricRegistry.Query)

/-- The record after a use. -/
def MetricRecord.use (record : MetricRecord) : MetricUse → MetricRecord
  | .measured m => record.apply m
  | .read _ => record

/-- The record after some uses. -/
def MetricRecord.useAll (record : MetricRecord) (uses : List MetricUse) : MetricRecord :=
  uses.foldl use record

namespace Series

variable {κ ν : Type} [DecidableEq κ]

@[simp] theorem get?_ensure (s : Series κ ν) (key query : κ) (value : ν) :
    (s.ensure key value).get? query = if query = key then some ((s.get? key).getD value)
      else s.get? query := by
  simp [ensure]

/-- A series reads the same if its missing value is put in. -/
theorem getD_get?_ensure (s : Series κ ν) (key query : κ) (value : ν) :
    ((s.ensure key value).get? query).getD value = (s.get? query).getD value := by
  rw [get?_ensure]
  by_cases hkey : query = key
  · rw [if_pos hkey, hkey]
    rfl
  · rw [if_neg hkey]

/-- An increment counts one more of its key and none of the others. -/
theorem getD_get?_increment (s : Series κ Nat) (key query : κ) :
    ((s.update key MetricRegistry.increment).get? query).getD 0 =
      (s.get? query).getD 0 + if query = key then 1 else 0 := by
  rw [get?_update]
  by_cases hkey : query = key
  · rw [if_pos hkey, if_pos hkey, hkey]
    rfl
  · rw [if_neg hkey, if_neg hkey]
    rfl

end Series

namespace MetricRegistry

variable {registry : MetricRegistry} {record : MetricRecord}

/-- The registry after a use. -/
def use (registry : MetricRegistry) : MetricUse → MetricRegistry
  | .measured m => registry.apply m
  | .read query => (registry.read query).2

/-- The registry after some uses. -/
def useAll (registry : MetricRegistry) (uses : List MetricUse) : MetricRegistry :=
  uses.foldl use registry

/-- **A registry agrees with a record.** -/
structure Agrees (registry : MetricRegistry) (record : MetricRecord) : Prop where
  /-- The gauge of a role reads its latest count, or zero. -/
  nodeCount : ∀ role, registry.value (.nodeCount role) = (record.nodeCounts.get? role).getD 0
  /-- The gauge of a node reads its latest count since the last reset, or zero. -/
  podCount : ∀ role node, registry.value (.podCount role node) =
    (record.podCounts.get? (role, node)).getD 0
  /-- The counter of a result and a node reads how often the node was drained with the result. -/
  drains : ∀ result node, registry.value (.drains result node) = record.drains.count (result, node)
  /-- The counter of a label reads how often a cycle ended with it. -/
  cycles : ∀ label, registry.value (.cycles label) = record.cycles.count label
  /-- The distribution has as many durations as there were cycles. -/
  durations : registry.cycleDurations.length = record.cycles.length

/-- A gauge shows a count within its range as it is. -/
theorem gauge_eq {count : Nat} (h : count < 9223372036854775808) : gauge count = count := by
  have hlower : -((18446744073709551616 : Nat) / 2 : Int) ≤ count := by omega
  have hupper : (count : Int) < ((18446744073709551616 : Nat) + 1) / 2 := by omega
  exact Int.bmod_eq_of_le hlower hupper

/-- At first all values are zero. -/
theorem agrees_empty : Agrees {} {} :=
  ⟨fun _ => rfl, fun _ _ => rfl, fun _ _ => rfl, fun _ => rfl, rfl⟩

/-- A gauge that is set reads what a record keeps. -/
theorem getD_get?_set_gauge {κ : Type} [DecidableEq κ] {gauges : Series κ Int}
    {counts : Series κ Nat} {count : Nat}
    (h : ∀ key, (gauges.get? key).getD 0 = (counts.get? key).getD 0)
    (hcount : count < 9223372036854775808) (key query : κ) :
    ((gauges.set key (gauge count)).get? query).getD 0 =
      ((counts.set key count).get? query).getD 0 := by
  rw [Series.get?_set, Series.get?_set]
  by_cases hkey : query = key
  · rw [if_pos hkey, if_pos hkey, Option.getD_some, Option.getD_some, gauge_eq hcount]
  · rw [if_neg hkey, if_neg hkey]
    exact h query

/-- A counter that is incremented reads how often a log holds its entry. -/
theorem getD_get?_update_count {κ : Type} [DecidableEq κ] [BEq κ] [LawfulBEq κ]
    {counters : Series κ Nat} {log : List κ}
    (h : ∀ key, ((counters.get? key).getD 0 : Int) = log.count key) (key query : κ) :
    (((counters.update key increment).get? query).getD 0 : Int) = (log ++ [key]).count query := by
  have hquery := h query
  rw [Series.getD_get?_increment, List.count_append]
  by_cases hkey : query = key
  · rw [if_pos hkey, hkey, List.count_singleton_self]
    rw [hkey] at hquery
    omega
  · have hother : key ≠ query := fun heq => hkey heq.symm
    rw [if_neg hkey, List.count_singleton, if_neg (by simpa using hother)]
    exact hquery

/-- **A measurement keeps a registry and a record in agreement.** -/
theorem Agrees.apply {m : Measurement} (h : registry.Agrees record) (hfits : m.FitsGauge) :
    (registry.apply m).Agrees (record.apply m) := by
  cases m with
  | nodeCount role count => exact { h with nodeCount := getD_get?_set_gauge h.nodeCount hfits role }
  | podCountsReset => exact { h with podCount := fun _ _ => rfl }
  | podCount role node count =>
    -- one gauge for each pair of a role and a node
    have hpods : ∀ key, (registry.podCounts.get? key).getD 0 = (record.podCounts.get? key).getD 0 :=
      fun key => h.podCount key.1 key.2
    exact { h with podCount := fun _ _ => getD_get?_set_gauge hpods hfits (role, node) _ }
  | drained result node =>
    have hdrains : ∀ key, ((registry.drains.get? key).getD 0 : Int) = record.drains.count key :=
      fun key => h.drains key.1 key.2
    exact { h with drains := fun _ _ => getD_get?_update_count hdrains (result, node) _ }
  | cycle label duration =>
    refine { h with cycles := getD_get?_update_count h.cycles label, durations := ?_ }
    change (registry.cycleDurations ++ [duration]).length = (record.cycles ++ [label]).length
    rw [List.length_append, List.length_append, h.durations]
    rfl

/-- Reading a value changes none. -/
theorem value_afterRead (registry : MetricRegistry) (query asked : Query) :
    (registry.afterRead query).value asked = registry.value asked := by
  cases query with
  | nodeCount role =>
    cases asked with
    | nodeCount asked => exact Series.getD_get?_ensure registry.nodeCounts role asked 0
    | podCount | drains | cycles => rfl
  | podCount role node =>
    cases asked with
    | podCount askedRole askedNode =>
      exact Series.getD_get?_ensure registry.podCounts (role, node) (askedRole, askedNode) 0
    | nodeCount | drains | cycles => rfl
  | drains result node =>
    cases asked with
    | drains askedResult askedNode =>
      exact congrArg Nat.cast
        (Series.getD_get?_ensure registry.drains (result, node) (askedResult, askedNode) 0)
    | nodeCount | podCount | cycles => rfl
  | cycles label =>
    cases asked with
    | cycles asked =>
      exact congrArg Nat.cast (Series.getD_get?_ensure registry.cycles label asked 0)
    | nodeCount | podCount | drains => rfl

/-- Reading a value observes no duration. -/
theorem cycleDurations_afterRead (registry : MetricRegistry) (query : Query) :
    (registry.afterRead query).cycleDurations = registry.cycleDurations := by
  cases query with
  | nodeCount | podCount | drains | cycles => rfl

/-- **Reading keeps a registry and a record in agreement**: a series that comes into being reads
zero. -/
theorem Agrees.read (h : registry.Agrees record) (query : Query) :
    (registry.read query).2.Agrees record where
  nodeCount := fun role => (registry.value_afterRead query _).trans (h.nodeCount role)
  podCount := fun role node => (registry.value_afterRead query _).trans (h.podCount role node)
  drains := fun result node => (registry.value_afterRead query _).trans (h.drains result node)
  cycles := fun label => (registry.value_afterRead query _).trans (h.cycles label)
  durations := (congrArg List.length (registry.cycleDurations_afterRead query)).trans h.durations

/-- A registry and a record that agree do so after any uses of both. -/
theorem Agrees.useAll {uses : List MetricUse} (h : registry.Agrees record)
    (hfits : ∀ m, .measured m ∈ uses → m.FitsGauge) :
    (registry.useAll uses).Agrees (record.useAll uses) := by
  induction uses generalizing registry record with
  | nil => exact h
  | cons use uses ih =>
    have hrest : ∀ m, .measured m ∈ uses → m.FitsGauge :=
      fun m hm => hfits m (List.mem_cons_of_mem _ hm)
    cases use with
    | measured m => exact ih (h.apply (hfits m List.mem_cons_self)) hrest
    | read query => exact ih (h.read query) hrest

/-- The exposition gives the number of durations. -/
theorem count_mem_lines (registry : MetricRegistry) :
    "spot_rescheduler_cycle_duration_seconds_count " ++ toString registry.cycleDurations.length ∈
      Exposition.lines registry := by
  have hcount : "spot_rescheduler_cycle_duration_seconds_count " ++
      toString registry.cycleDurations.length ∈
      Exposition.cycleDurations registry := by
    rw [Exposition.cycleDurations]
    simp
  rw [Exposition.lines]
  exact List.mem_append_left _ (List.mem_append_right _ hcount)

/-- **Records and registries agree** after any measurements and reads in any order, and the
exposition of the registry gives the number of cycles that the record holds. -/
theorem agrees_useAll (uses : List MetricUse) (hfits : ∀ m, .measured m ∈ uses → m.FitsGauge) :
    (useAll {} uses).Agrees (MetricRecord.useAll {} uses) ∧
      "spot_rescheduler_cycle_duration_seconds_count " ++
        toString (MetricRecord.useAll {} uses).cycles.length ∈
        Exposition.lines (useAll {} uses) := by
  have hagrees : (useAll {} uses).Agrees (MetricRecord.useAll {} uses) := agrees_empty.useAll hfits
  refine ⟨hagrees, ?_⟩
  rw [← hagrees.durations]
  exact count_mem_lines _

/-- After a reset a gauge reads zero again, and a counter that was read before its first drain
counts it. -/
theorem agrees_useAll_reset :
    let uses : List MetricUse :=
  [.measured (.podCount .onDemand "a" 3), .read (.drains .success "a"),
      .measured .podCountsReset, .measured (.podCount .onDemand "b" 1),
      .measured (.drained .failure "a"),
      .measured (.drained .success "a"), .measured (.cycle "drained" (.ofSeconds 5))]
    (∀ m, .measured m ∈ uses → m.FitsGauge) ∧
      (useAll {} uses).value (.podCount .onDemand "a") = 0 ∧
      (useAll {} uses).value (.podCount .onDemand "b") = 1 ∧
      (useAll {} uses).value (.drains .success "a") = 1 ∧
      (useAll {} uses).Agrees (MetricRecord.useAll {} uses) ∧
      "spot_rescheduler_cycle_duration_seconds_count " ++
        toString (MetricRecord.useAll {} uses).cycles.length ∈
        Exposition.lines (useAll {} uses) := by
  intro uses
  have hfits : ∀ m, .measured m ∈ uses → m.FitsGauge := by
    intro m hm
    simp only [uses, List.mem_cons, MetricUse.measured.injEq, reduceCtorEq, List.not_mem_nil,
      or_false, false_or] at hm
    rcases hm with rfl | rfl | rfl | rfl | rfl | rfl <;> simp [Measurement.FitsGauge]
  exact ⟨hfits, by decide +kernel, by decide +kernel, by decide +kernel, agrees_useAll uses hfits⟩

end MetricRegistry

end SpotRebalance
