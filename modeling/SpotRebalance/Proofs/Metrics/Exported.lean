import Mathlib.Data.List.Induction
import SpotRebalance.Proofs.Metrics.Samples

/-! # What is exported

A measurement of a node count, a pod count, a drain or a cycle **records** its series, and a reset
**forgets** the series of all pod counts. What should be exported are the series that were recorded
and not forgotten since (`RecordedSince`). After a run without reads it is exactly these
(`mem_series_useAll_unread`).

But a value is read by way of its series, which comes into being if there is none. So the series
that were read and not forgotten since are exported as well, with the value zero: the exposition
after a run has the lines that it would have without the reads, and a sample for each of these
**strays** (`lines_useAll_perm`). It shows what was recorded, and nothing else, exactly if
everything that was read was also recorded (`exported_useAll`). -/

namespace SpotRebalance

open MetricRegistry

/-! ## Recording and forgetting -/

/-- The series that a measurement records. -/
def Measurement.series? : Measurement → Option Query
  | nodeCount role _ => some (.nodeCount role)
  | podCountsReset => none
  | podCount role node _ => some (.podCount role node)
  | drained result node => some (.drains result node)
  | cycle label _ => some (.cycles label)

/-- Whether a query is one for a pod count. -/
def MetricRegistry.Query.isPodCount : Query → Bool
  | podCount .. => true
  | nodeCount _ | drains .. | cycles _ => false

/-- Whether a measurement forgets a series. -/
def Measurement.forgets (m : Measurement) (query : Query) : Bool :=
  m == podCountsReset && query.isPodCount

namespace MetricUse

/-- Whether a use records a series. -/
def records (query : Query) : MetricUse → Bool
  | measured m => m.series? == some query
  | read _ => false

/-- Whether a use reads a series. -/
def reads (query : Query) : MetricUse → Bool
  | measured _ => false
  | read asked => asked == query

/-- Whether a use forgets a series. -/
def forgets (query : Query) : MetricUse → Bool
  | measured m => m.forgets query
  | read _ => false

/-- Whether a use is a measurement. -/
def isMeasured : MetricUse → Bool
  | measured _ => true
  | read _ => false

/-- **A use happened to a series**, and the series was not forgotten since. -/
def Since (happens : Query → MetricUse → Bool) (uses : List MetricUse) (query : Query) : Prop :=
  ∃ earlier use later, uses = earlier ++ use :: later ∧ happens query use = true ∧
    ∀ u ∈ later, u.forgets query = false

/-- A series was recorded, and not forgotten since. -/
abbrev RecordedSince : List MetricUse → Query → Prop := Since records

/-- A series was read, and not forgotten since. -/
abbrev ReadSince : List MetricUse → Query → Prop := Since reads

variable {happens : Query → MetricUse → Bool} {uses : List MetricUse} {use : MetricUse}
  {query : Query}

/-- Before any use nothing has happened. -/
theorem not_since_nil : ¬ Since happens [] query := by
  rintro ⟨earlier, use, later, heq, -⟩
  simp at heq

/-- Something has happened since the last use if it happens now, or had happened and is not
forgotten now. -/
theorem since_append_singleton :
    Since happens (uses ++ [use]) query ↔
      happens query use = true ∨ Since happens uses query ∧ use.forgets query = false := by
  constructor
  · rintro ⟨earlier, hit, later, heq, hhappens, hkept⟩
    rcases List.eq_nil_or_concat later with rfl | ⟨later, last, rfl⟩
    · obtain ⟨-, hlast⟩ := List.append_inj' heq rfl
      cases hlast
      exact Or.inl hhappens
    · rw [List.concat_eq_append, ← List.cons_append, ← List.append_assoc] at heq
      obtain ⟨rfl, hlast⟩ := List.append_inj' heq rfl
      cases hlast
      refine Or.inr ⟨⟨earlier, hit, later, rfl, hhappens, fun u hu => hkept u ?_⟩, hkept _ ?_⟩
      all_goals simp [*]
  · rintro (hnow | ⟨⟨earlier, hit, later, rfl, hhappens, hkept⟩, hlast⟩)
    · exact ⟨uses, use, [], rfl, hnow, by simp⟩
    · refine ⟨earlier, hit, later ++ [use], by simp, hhappens, ?_⟩
      intro u hu
      rcases List.mem_append.1 hu with hu | hu
      · exact hkept u hu
      · rw [List.mem_singleton.1 hu]
        exact hlast

/-- What is never forgotten has happened if it ever did. -/
theorem since_iff_of_not_podCount (hquery : query.isPodCount = false) :
    Since happens uses query ↔ ∃ use ∈ uses, happens query use = true := by
  have hkept (u : MetricUse) : u.forgets query = false := by
    cases u <;> simp [forgets, Measurement.forgets, hquery]
  constructor
  · rintro ⟨earlier, use, later, rfl, hhappens, -⟩
    exact ⟨use, by simp, hhappens⟩
  · rintro ⟨use, huse, hhappens⟩
    obtain ⟨earlier, later, rfl⟩ := List.append_of_mem huse
    exact ⟨earlier, use, later, rfl, hhappens, fun u _ => hkept u⟩

end MetricUse

namespace MetricRegistry

open MetricUse

variable {r s : MetricRegistry} {uses : List MetricUse} {query : Query}

/-! ## The series after a run -/

/-- **A measurement adds the series that it records and drops those that it forgets.** -/
theorem mem_series_apply {m : Measurement} :
    query ∈ (r.apply m).series ↔ m.series? = some query ∨ query ∈ r.series ∧
      m.forgets query = false := by
  -- a measurement changes the keys of one family only
  cases m with
  | podCountsReset =>
    cases query <;> simp [apply, Measurement.series?, Measurement.forgets, Query.isPodCount,
      Series.keys]
  | nodeCount | podCount | drained | cycle =>
    cases query <;>
      simp [-Series.keys_update, apply, Measurement.series?, Measurement.forgets, Series.set,
        Series.mem_keys_update]

/-- **A use adds the series that it records or reads and drops those that it forgets.** -/
theorem mem_series_use {use : MetricUse} :
    query ∈ (r.use use).series ↔
      (use.records query = true ∨ use.reads query = true) ∨ query ∈ r.series ∧
        use.forgets query = false := by
  cases use with
  | measured m =>
    rw [MetricRegistry.use, mem_series_apply]
    simp [records, reads, forgets]
  | read asked =>
    rw [MetricRegistry.use, read, mem_series_afterRead]
    simp [records, reads, forgets]

/-- The registry after one more use. -/
theorem useAll_append_singleton (r : MetricRegistry) (uses : List MetricUse) (use : MetricUse) :
    r.useAll (uses ++ [use]) = (r.useAll uses).use use := by
  rw [useAll, List.foldl_append]
  rfl

/-- A new registry has no series. -/
theorem series_new : (useAll {} []).series = [] := rfl

/-- **After a run there are the series that were recorded or read**, and not forgotten since. -/
theorem mem_series_useAll :
    query ∈ (useAll {} uses).series ↔ RecordedSince uses query ∨ ReadSince uses query := by
  induction uses using List.reverseRecOn with
  | nil =>
    rw [series_new]
    simp [RecordedSince, ReadSince, not_since_nil]
  | append_singleton uses use ih =>
    rw [useAll_append_singleton, mem_series_use, RecordedSince, ReadSince, since_append_singleton,
      since_append_singleton, ih]
    tauto

/-! ## Runs without reads -/

/-- The measurements among some uses. -/
def unread (uses : List MetricUse) : List MetricUse := uses.filter isMeasured

/-- A measurement stays in. -/
theorem unread_append_measured (uses : List MetricUse) (m : Measurement) :
    unread (uses ++ [.measured m]) = unread uses ++ [.measured m] := by
  rw [unread, List.filter_append]
  rfl

/-- A read is left out. -/
theorem unread_append_read (uses : List MetricUse) (asked : Query) :
    unread (uses ++ [.read asked]) = unread uses := by
  rw [unread, List.filter_append]
  exact List.append_nil _

/-- **Without the reads, a run exports the series that were recorded**, and not forgotten since. -/
theorem mem_series_useAll_unread :
    query ∈ (useAll {} (unread uses)).series ↔ RecordedSince uses query := by
  induction uses using List.reverseRecOn with
  | nil =>
    rw [unread, List.filter_nil, series_new]
    simp [RecordedSince, not_since_nil]
  | append_singleton uses use ih =>
    rw [RecordedSince, since_append_singleton]
    cases use with
    | measured m =>
      rw [unread_append_measured, useAll_append_singleton, mem_series_use, ih]
      simp [reads]
    | read asked =>
      rw [unread_append_read, ih]
      simp [records, forgets]

/-- **Two registries show the same values.** -/
structure ShowsAlike (r s : MetricRegistry) : Prop where
  /-- Every query has the same value. -/
  value : r.value = s.value
  /-- The durations are the same. -/
  durations : r.cycleDurations = s.cycleDurations

/-- Gauges that read alike do so after one of them is set in both. -/
theorem getD_get?_set_congr {κ : Type} [DecidableEq κ] {gauges others : Series κ Int} {query : κ}
    (h : (gauges.get? query).getD 0 = (others.get? query).getD 0) (key : κ) (shown : Int) :
    ((gauges.set key shown).get? query).getD 0 = ((others.set key shown).get? query).getD 0 := by
  rw [Series.get?_set, Series.get?_set]
  by_cases hkey : query = key
  · rw [if_pos hkey, if_pos hkey]
  · rw [if_neg hkey, if_neg hkey]
    exact h

/-- Counters that read alike do so after one of them is incremented in both. -/
theorem getD_get?_increment_congr {κ : Type} [DecidableEq κ] {counters others : Series κ Nat}
    {query : κ} (h : ((counters.get? query).getD 0 : Int) = (others.get? query).getD 0) (key : κ) :
    (((counters.update key increment).get? query).getD 0 : Int) =
      ((others.update key increment).get? query).getD 0 := by
  rw [Series.getD_get?_increment, Series.getD_get?_increment]
  omega

/-- **A measurement keeps the values alike.** -/
theorem ShowsAlike.apply (h : ShowsAlike r s) (m : Measurement) :
    ShowsAlike (r.apply m) (s.apply m) where
  value := by
    funext query
    have hold := congrFun h.value query
    cases m with
    | nodeCount role count =>
      cases query with
      | nodeCount => exact getD_get?_set_congr hold role _
      | podCount | drains | cycles => exact hold
    | podCountsReset =>
      cases query with
      | podCount => rfl
      | nodeCount | drains | cycles => exact hold
    | podCount role node count =>
      cases query with
      | podCount => exact getD_get?_set_congr hold (role, node) _
      | nodeCount | drains | cycles => exact hold
    | drained result node =>
      cases query with
      | drains => exact getD_get?_increment_congr hold (result, node)
      | nodeCount | podCount | cycles => exact hold
    | cycle label duration =>
      cases query with
      | cycles => exact getD_get?_increment_congr hold label
      | nodeCount | podCount | drains => exact hold
  durations := by
    have hdurations := h.durations
    cases m with
    | cycle label duration => simp [MetricRegistry.apply, hdurations]
    | nodeCount | podCountsReset | podCount | drained => exact hdurations

/-- A read in one of two registries keeps their values alike. -/
theorem ShowsAlike.afterRead (h : ShowsAlike r s) (asked : Query) :
    ShowsAlike (r.afterRead asked) s where
  value := by
    funext query
    rw [value_afterRead, h.value]
  durations := by rw [cycleDurations_afterRead, h.durations]

/-- **Reads change no value**: a run and the same run without its reads show the same values. -/
theorem showsAlike_unread (uses : List MetricUse) :
    ShowsAlike (useAll {} uses) (useAll {} (unread uses)) := by
  induction uses using List.reverseRecOn with
  | nil => exact ⟨rfl, rfl⟩
  | append_singleton uses use ih =>
    rw [useAll_append_singleton]
    cases use with
    | measured m =>
      rw [unread_append_measured, useAll_append_singleton]
      exact ih.apply m
    | read asked =>
      rw [unread_append_read]
      exact ih.afterRead asked

/-- A query without a series has the value zero. -/
theorem value_of_not_mem (h : query ∉ r.series) : r.value query = 0 := by
  cases query with
  | nodeCount role =>
    rw [nodeCount_mem_series] at h
    rw [value, Series.get?_of_not_mem h, Option.getD_none]
  | podCount role node =>
    rw [podCount_mem_series] at h
    rw [value, Series.get?_of_not_mem h, Option.getD_none]
  | drains result node =>
    rw [drains_mem_series] at h
    rw [value, Series.get?_of_not_mem h, Option.getD_none, Int.natCast_zero]
  | cycles label =>
    rw [cycles_mem_series] at h
    rw [value, Series.get?_of_not_mem h, Option.getD_none, Int.natCast_zero]

/-! ## Strays -/

/-- **The strays of a run**: the series that are there only because they were read. -/
def strays (uses : List MetricUse) : List Query :=
  (useAll {} uses).series.filter fun query => query ∉ (useAll {} (unread uses)).series

/-- The strays are the series that were read, but not recorded, and not forgotten since. -/
theorem mem_strays : query ∈ strays uses ↔ ReadSince uses query ∧ ¬ RecordedSince uses query := by
  rw [strays, List.mem_filter, decide_eq_true_eq, mem_series_useAll, mem_series_useAll_unread]
  tauto

/-- The series of a run are those that it has without its reads, and the strays. -/
theorem series_useAll_perm (uses : List MetricUse) :
    (useAll {} uses).series.Perm ((useAll {} (unread uses)).series ++ strays uses) := by
  have hdistinct : ((useAll {} (unread uses)).series ++ strays uses).Nodup := by
    refine List.nodup_append'.2 ⟨series_nodup _, (series_nodup _).filter _,
      fun query hold hstray => ?_⟩
    exact (mem_strays.1 hstray).2 (mem_series_useAll_unread.1 hold)
  refine (List.perm_ext_iff_of_nodup (series_nodup _) hdistinct).2 fun query => ?_
  rw [List.mem_append, mem_series_useAll, mem_series_useAll_unread, mem_strays]
  tauto

/-- **An exposition shows what was recorded, and the strays with the value zero.** -/
theorem lines_useAll_perm (uses : List MetricUse) :
    (Exposition.lines (useAll {} uses)).Perm
      (Exposition.lines (useAll {} (unread uses)) ++
        ((strays uses).map fun query => query.sample 0).flatMap Exposition.linesOf) := by
  have halike := showsAlike_unread uses
  have hsamples : (useAll {} uses).sampleOf = (useAll {} (unread uses)).sampleOf := by
    funext query
    rw [sampleOf, sampleOf, halike.value]
  have hzero : (strays uses).map (useAll {} (unread uses)).sampleOf = (strays uses).map fun query =>
      query.sample 0 := by
    refine List.map_congr_left fun query hquery => ?_
    have hmissing : query ∉ (useAll {} (unread uses)).series := fun hold =>
      (mem_strays.1 hquery).2 (mem_series_useAll_unread.1 hold)
    rw [sampleOf, value_of_not_mem hmissing]
  have hlines := (useAll {} uses).lines_perm
  rw [hsamples, halike.durations] at hlines
  have hseries :=
    ((series_useAll_perm uses).map (useAll {} (unread uses)).sampleOf).flatMap_right
      Exposition.linesOf
  rw [List.map_append, List.flatMap_append, hzero] at hseries
  refine hlines.trans ((hseries.append_left _).trans ?_)
  rw [← List.append_assoc]
  exact (useAll {} (unread uses)).lines_perm.symm.append_right _

/-- **A run exports what was recorded**: its series are those that were recorded and not forgotten
since, and the exposition has the lines that it has without the reads. -/
structure ExportsRecorded (uses : List MetricUse) : Prop where
  /-- The series are the recorded ones. -/
  series_iff : ∀ query, query ∈ (useAll {} uses).series ↔ RecordedSince uses query
  /-- The reads make no difference to the exposition. -/
  lines : (Exposition.lines (useAll {} uses)).Perm (Exposition.lines (useAll {} (unread uses)))

/-- A run exports what was recorded exactly if it has no strays. -/
theorem exportsRecorded_iff_strays : ExportsRecorded uses ↔ strays uses = [] := by
  constructor
  · intro h
    refine List.eq_nil_iff_forall_not_mem.2 fun query hquery => ?_
    have hstray : query ∈ (useAll {} uses).series := (List.mem_filter.1 hquery).1
    exact (mem_strays.1 hquery).2 ((h.series_iff query).1 hstray)
  · intro hnone
    have hseries := series_useAll_perm uses
    have hlines := lines_useAll_perm uses
    rw [hnone, List.append_nil] at hseries
    rw [hnone, List.map_nil, List.flatMap_nil, List.append_nil] at hlines
    exact ⟨fun query => hseries.mem_iff.trans mem_series_useAll_unread, hlines⟩

/-- **What a run of measurements and reads exports.** -/
structure Exported (uses : List MetricUse) : Prop where
  /-- The series are those that were recorded or read and not forgotten since. -/
  series_iff : ∀ query, query ∈ (useAll {} uses).series ↔ RecordedSince uses query ∨
    ReadSince uses query
  /-- Only pod counts are ever forgotten. -/
  recorded_iff : ∀ query, query.isPodCount = false →
    (RecordedSince uses query ↔ ∃ use ∈ uses, use.records query = true)
  /-- There is one sample for each series, and the samples differ. -/
  samples : ((useAll {} uses).series.map (useAll {} uses).sampleOf).Nodup ∧
    (Exposition.lines (useAll {} uses)).Perm
      (Exposition.lines { cycleDurations := (useAll {} uses).cycleDurations } ++
        ((useAll {} uses).series.map (useAll {} uses).sampleOf).flatMap Exposition.linesOf)
  /-- Next to the samples that the run has without its reads, there are the strays with the value
  zero. -/
  lines : (Exposition.lines (useAll {} uses)).Perm
    (Exposition.lines (useAll {} (unread uses)) ++
      ((strays uses).map fun query => query.sample 0).flatMap Exposition.linesOf)
  /-- One more read leaves the exposition as it is exactly if its series is there already. -/
  read_iff : ∀ query, Exposition.lines (useAll {} (uses ++ [.read query])) =
    Exposition.lines (useAll {} uses) ↔
    query ∈ (useAll {} uses).series
  /-- The run exports what was recorded exactly if everything that was read and not forgotten since
  was also recorded. -/
  exportsRecorded_iff : ExportsRecorded uses ↔ ∀ query, ReadSince uses query →
    RecordedSince uses query

/-- **A registry exports what was recorded, and what was only read as well.** -/
theorem exported_useAll (uses : List MetricUse) : Exported uses where
  series_iff _ := mem_series_useAll
  recorded_iff _ hquery := since_iff_of_not_podCount hquery
  samples := ⟨sampleOf_nodup _, lines_perm _⟩
  lines := lines_useAll_perm uses
  read_iff query := by
    rw [useAll_append_singleton]
    exact lines_afterRead_eq_iff
  exportsRecorded_iff := by
    rw [exportsRecorded_iff_strays, List.eq_nil_iff_forall_not_mem]
    simp only [mem_strays, not_and, not_not]

/-- A node that left the cluster is exported again once its pod count is read after the reset. -/
theorem not_exportsRecorded_departed :
    let gone := Query.podCount .spot "gone"
    let uses : List MetricUse :=
      [.measured (.podCount .spot "gone" 2), .measured .podCountsReset, .read gone]
    ¬ RecordedSince uses gone ∧ gone ∈ (useAll {} uses).series ∧ ¬ ExportsRecorded uses ∧
      "spot_rescheduler_node_pods_count\x7bnode_role=\"spot\",node=\"gone\"\x7d 0" ∈
        Exposition.lines (useAll {} uses) := by
  intro gone uses
  have hunrecorded : ¬ RecordedSince uses gone := by
    rw [← mem_series_useAll_unread]
    decide
  have hexported : gone ∈ (useAll {} uses).series := by decide
  refine ⟨hunrecorded, hexported, fun h => hunrecorded ((h.series_iff gone).1 hexported), ?_⟩
  have hsample : Exposition.linesOf (gone.sample 0) =
      ["spot_rescheduler_node_pods_count\x7bnode_role=\"spot\",node=\"gone\"\x7d 0"] := by
    decide +kernel
  rw [(lines_useAll_perm uses).mem_iff, List.mem_append, List.flatMap_map, List.mem_flatMap]
  refine Or.inr ⟨gone, by decide, ?_⟩
  rw [hsample]
  exact List.mem_singleton_self _

end MetricRegistry

end SpotRebalance
