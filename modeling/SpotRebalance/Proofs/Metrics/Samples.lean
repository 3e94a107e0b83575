import Mathlib.Data.List.Nodup
import SpotRebalance.Proofs.Metrics.Agreement

/-! # Series and their samples

The **series** of a registry are the queries that have a value of their own
(`MetricRegistry.series`). An exposition consists of the lines that it has without any series, and
of the lines of one **sample** for each series, in another order (`MetricRegistry.lines_perm`). A
sample tells its series (`MetricRegistry.Query.sample_injective`), whatever the labels are: the
first brace ends the name and the last one the labels, because neither a name nor a value has one.

Reading a value adds its series if there is none. So reading leaves the exposition as it is exactly
for values that have a series already (`MetricRegistry.lines_afterRead_eq_iff`). -/

namespace SpotRebalance

/-! ## Lines in runs -/

namespace Exposition

/-- Every text has a line. -/
theorem linesOf_ne_nil (text : String) : linesOf text ≠ [] := by
  have hparts : ((text.toList.splitOn '\n').map String.ofList).reverse ≠ [] := by simp
  rw [linesOf]
  split
  · contradiction
  · simp

/-- Lines that are put in order, run by run, stay the same lines. -/
theorem addLine_perm (lines : List String) :
    ((lines.foldr addLine ([], [])).1 ++ (lines.foldr addLine ([], [])).2).Perm lines := by
  induction lines with
  | nil => exact List.Perm.refl _
  | cons line lines ih =>
    rw [List.foldr_cons]
    generalize lines.foldr addLine ([], []) = placed at ih ⊢
    obtain ⟨run, done⟩ := placed
    rw [addLine]
    split
    · -- the line opens a run, and the lines before it are put in order
      exact ((List.mergeSort_perm run _).append_right done |>.trans ih).cons line
    · exact ih.cons line

/-- **Putting samples in order changes no line.** -/
theorem sorted_perm (samples : List String) : (sorted samples).Perm (samples.flatMap linesOf) := by
  have hplaced := addLine_perm (samples.flatMap linesOf)
  rw [sorted]
  generalize (samples.flatMap linesOf).foldr addLine ([], []) = placed at hplaced ⊢
  obtain ⟨run, done⟩ := placed
  exact ((List.mergeSort_perm run _).append_right done).trans hplaced

end Exposition

namespace Series

variable {κ ν : Type}

@[simp] theorem entries_empty : (∅ : Series κ ν).entries = [] := rfl

variable [DecidableEq κ]

/-- Among entries with different keys, an entry is found under its key. -/
theorem find?_eq_some_of_mem {entries : List (κ × ν)} {entry : κ × ν}
    (hdistinct : (entries.map (·.1)).Nodup) (hentry : entry ∈ entries) :
    find? entry.1 entries = some entry.2 := by
  induction entries with
  | nil => cases hentry
  | cons first rest ih =>
    obtain ⟨hnew, hrest⟩ : first.1 ∉ rest.map (·.1) ∧ (rest.map (·.1)).Nodup :=
      List.nodup_cons.1 hdistinct
    rcases List.mem_cons.1 hentry with rfl | hlater
    · exact if_pos rfl
    · -- the key stands once, so the first entry has another
      have hother : first.1 ≠ entry.1 := by
        intro heq
        rw [heq] at hnew
        exact hnew (List.mem_map_of_mem hlater)
      exact (if_neg hother).trans (ih hrest hlater)

/-- Nothing is found under a key that no entry has. -/
theorem find?_eq_none_of_not_mem {entries : List (κ × ν)} {key : κ}
    (hkey : key ∉ entries.map (·.1)) :
    find? key entries = none := by
  induction entries with
  | nil => rfl
  | cons first rest ih =>
    obtain ⟨hfirst, hrest⟩ : key ≠ first.1 ∧ key ∉ rest.map (·.1) := by simpa using hkey
    exact (if_neg hfirst.symm).trans (ih hrest)

/-- The value of an entry is the one that is found under its key. -/
theorem get?_of_mem {s : Series κ ν} {entry : κ × ν} (h : entry ∈ s.entries) :
    s.get? entry.1 = some entry.2 :=
  find?_eq_some_of_mem s.distinct h

/-- Nothing is found under a key that has no value. -/
theorem get?_of_not_mem {s : Series κ ν} {key : κ} (h : key ∉ s.keys) : s.get? key = none :=
  find?_eq_none_of_not_mem h

/-- What depends on the keys and their values can be read off the entries. -/
theorem map_keys_eq {α : Type} (s : Series κ ν) {f : κ → α} {g : κ × ν → α}
    (h : ∀ e : κ × ν, s.get? e.1 = some e.2 → f e.1 = g e) : s.keys.map f = s.entries.map g := by
  rw [keys, List.map_map]
  exact List.map_congr_left fun e he => h e (get?_of_mem he)

/-- Entries are left as they are by a missing value for a key that is there. -/
theorem updateEntry_getD_of_mem {entries : List (κ × ν)} {key : κ} (hkey : key ∈ entries.map (·.1))
    (value : ν) :
    updateEntry key (·.getD value) entries = entries := by
  induction entries with
  | nil => cases hkey
  | cons first rest ih =>
    by_cases hfirst : first.1 = key
    · cases hfirst
      simp [updateEntry]
    · have hlater : key ∈ rest.map (·.1) := (List.mem_cons.1 hkey).resolve_left (Ne.symm hfirst)
      simp [updateEntry, hfirst, ih hlater]

/-- A series that has a value for a key is left as it is by a missing value. -/
theorem ensure_of_mem {s : Series κ ν} {key : κ} (h : key ∈ s.keys) (value : ν) :
    s.ensure key value = s := by
  have hsame := updateEntry_getD_of_mem h value
  rw [ensure, update]
  cases s
  simpa using hsame

/-- An update gives its key a value, and takes none away. -/
theorem mem_keys_update {s : Series κ ν} {key other : κ} {change : Option ν → ν} :
    other ∈ (s.update key change).keys ↔ key = other ∨ other ∈ s.keys := by
  rw [keys_update]
  by_cases hkey : key ∈ s.keys
  · rw [if_pos hkey]
    constructor
    · exact Or.inr
    · rintro (rfl | hother)
      · exact hkey
      · exact hother
  · rw [if_neg hkey, List.mem_append, List.mem_singleton, or_comm, eq_comm]

/-- A missing value is added under its key. -/
theorem mem_keys_ensure {s : Series κ ν} {key other : κ} {value : ν} :
    other ∈ (s.ensure key value).keys ↔ key = other ∨ other ∈ s.keys := by
  rw [ensure, mem_keys_update]

end Series

namespace MetricRegistry

variable {r : MetricRegistry}

/-! ## Series -/

/-- **The series of a registry**: the queries that have a value of their own. -/
def series (r : MetricRegistry) : List Query :=
  r.nodeCounts.keys.map .nodeCount ++ r.podCounts.keys.map (fun key => .podCount key.1 key.2) ++
    r.drains.keys.map (fun key => .drains key.1 key.2) ++ r.cycles.keys.map .cycles

@[simp] theorem nodeCount_mem_series {role : Role} :
    .nodeCount role ∈ r.series ↔ role ∈ r.nodeCounts.keys := by
  simp [series]

@[simp] theorem podCount_mem_series {role : Role} {node : String} :
    .podCount role node ∈ r.series ↔ (role, node) ∈ r.podCounts.keys := by
  simp [series]

@[simp] theorem drains_mem_series {result : DrainResult} {node : String} :
    .drains result node ∈ r.series ↔ (result, node) ∈ r.drains.keys := by
  simp [series]

@[simp] theorem cycles_mem_series {label : String} :
    .cycles label ∈ r.series ↔ label ∈ r.cycles.keys := by
  simp [series]

/-- No series appears twice. -/
theorem series_nodup (r : MetricRegistry) : r.series.Nodup := by
  have hnodes : (r.nodeCounts.keys.map Query.nodeCount).Nodup :=
    r.nodeCounts.distinct.map fun _ _ heq => by cases heq; rfl
  have hpods : (r.podCounts.keys.map fun key => Query.podCount key.1 key.2).Nodup :=
    r.podCounts.distinct.map fun a b heq => by simpa [Prod.ext_iff] using heq
  have hdrains : (r.drains.keys.map fun key => Query.drains key.1 key.2).Nodup :=
    r.drains.distinct.map fun a b heq => by simpa [Prod.ext_iff] using heq
  have hcycles : (r.cycles.keys.map Query.cycles).Nodup := r.cycles.distinct.map fun _ _ heq => by
    cases heq; rfl
  rw [series, List.nodup_append', List.nodup_append', List.nodup_append']
  refine ⟨⟨⟨hnodes, hpods, ?_⟩, hdrains, ?_⟩, hcycles, ?_⟩
  all_goals
    intro query hfirst hsecond
    simp only [List.mem_append, List.mem_map] at hfirst hsecond
    grind

/-! ## Samples -/

/-- The name that a series has in samples. -/
def Query.family : Query → String
  | nodeCount _ => "spot_rescheduler_nodes_count"
  | podCount .. => "spot_rescheduler_node_pods_count"
  | drains .. => "spot_rescheduler_node_drain_total"
  | cycles _ => "spot_rescheduler_cycles_total"

/-- The labels that a series has in samples. -/
def Query.labels : Query → List String
  | nodeCount role => [Exposition.label "node_role" role.name]
  | podCount role node => [Exposition.label "node_role" role.name, Exposition.label "node" node]
  | drains result node => [Exposition.label "result" result.name, Exposition.label "node" node]
  | cycles label => [Exposition.label "outcome" label]

/-- The sample of a series that has a value. -/
def Query.sample (query : Query) (value : Int) : String :=
  Exposition.sample query.family query.labels (toString value)

/-- The sample that a registry shows for a query. -/
def sampleOf (r : MetricRegistry) (query : Query) : String := query.sample (r.value query)

/-- **An exposition has one sample for each series**, and else only the lines that it has without
any series. -/
theorem lines_perm (r : MetricRegistry) :
    (Exposition.lines r).Perm
      (Exposition.lines { cycleDurations := r.cycleDurations } ++
        (r.series.map r.sampleOf).flatMap Exposition.linesOf) := by
  have hnodes : (r.nodeCounts.keys.map fun role => r.sampleOf (.nodeCount role)) =
      r.nodeCounts.entries.map fun e =>
      Exposition.sample "spot_rescheduler_nodes_count" [Exposition.label "node_role" e.1.name]
        (toString e.2) :=
    r.nodeCounts.map_keys_eq fun e he => by rw [sampleOf, value, he]; rfl
  have hpods : (r.podCounts.keys.map fun key => r.sampleOf (.podCount key.1 key.2)) =
      r.podCounts.entries.map fun e =>
      Exposition.sample "spot_rescheduler_node_pods_count"
        [Exposition.label "node_role" e.1.1.name, Exposition.label "node" e.1.2] (toString e.2) :=
    r.podCounts.map_keys_eq fun e he => by rw [sampleOf, value, he]; rfl
  have hdrains : (r.drains.keys.map fun key => r.sampleOf (.drains key.1 key.2)) =
      r.drains.entries.map fun e =>
      Exposition.sample ("spot_rescheduler_node_drain" ++ "_total")
        [Exposition.label "result" e.1.1.name, Exposition.label "node" e.1.2] (toString e.2) :=
    r.drains.map_keys_eq fun e he => by rw [sampleOf, value, he]; rfl
  have hcycles : (r.cycles.keys.map fun label => r.sampleOf (.cycles label)) =
      r.cycles.entries.map fun e =>
      Exposition.sample ("spot_rescheduler_cycles" ++ "_total") [Exposition.label "outcome" e.1]
        (toString e.2) :=
    r.cycles.map_keys_eq fun e he => by rw [sampleOf, value, he]; rfl
  have hseries : r.series.map r.sampleOf =
      (r.nodeCounts.keys.map fun role => r.sampleOf (.nodeCount role)) ++
        (r.podCounts.keys.map fun key => r.sampleOf (.podCount key.1 key.2)) ++
        (r.drains.keys.map fun key => r.sampleOf (.drains key.1 key.2)) ++
        (r.cycles.keys.map fun label => r.sampleOf (.cycles label)) := by
    simp [series, Function.comp_def]
  have hempty : Exposition.sorted [] = [] := by simp [Exposition.sorted]
  -- each family puts its samples in order, and no line is lost
  have hcount (samples : List String) (line : String) :
      (Exposition.sorted samples).count line = (samples.flatMap Exposition.linesOf).count line :=
    (Exposition.sorted_perm samples).count_eq line
  rw [hseries, hnodes, hpods, hdrains, hcycles, List.perm_iff_count]
  intro line
  simp only [Exposition.lines, Exposition.nodeCounts, Exposition.podCounts, Exposition.drains,
    Exposition.cycles, Exposition.cycleDurations, Series.entries_empty, List.map_nil, hempty,
    List.append_nil, List.flatMap_append, List.count_append, hcount]
  omega

/-! ## Telling samples apart -/

end MetricRegistry

/-- A text tells what stands before its first mark, and what stands after it. -/
theorem eq_of_first_mark {α : Type} {mark : α} {before before' after after' : List α}
    (h : before ++ mark :: after = before' ++ mark :: after') (hbefore : mark ∉ before)
    (hbefore' : mark ∉ before') :
    before = before' ∧ after = after' := by
  rcases List.append_eq_append_iff.1 h with ⟨rest, rfl, hrest⟩ | ⟨rest, rfl, hrest⟩
  · cases rest with
    | nil => simpa using hrest
    | cons first rest =>
      -- an earlier mark would stand before the first one
      obtain ⟨rfl, -⟩ := List.cons_eq_cons.1 hrest
      simp at hbefore'
  · cases rest with
    | nil => simpa using hrest.symm
    | cons first rest =>
      obtain ⟨rfl, -⟩ := List.cons_eq_cons.1 hrest
      simp at hbefore

/-- A text tells what stands before its last mark. -/
theorem eq_of_last_mark {α : Type} {mark : α} {before before' after after' : List α}
    (h : before ++ mark :: after = before' ++ mark :: after') (hafter : mark ∉ after)
    (hafter' : mark ∉ after') :
    before = before' := by
  have hreversed := congrArg List.reverse h
  simp only [List.reverse_append, List.reverse_cons, List.append_assoc, List.singleton_append]
    at hreversed
  have hsame := eq_of_first_mark hreversed (by simpa using hafter) (by simpa using hafter')
  exact List.reverse_inj.1 hsame.2

namespace Exposition

/-- A label tells its value. -/
theorem label_inj {name value value' : String} :
    label name value = label name value' ↔ value = value' := by
  rw [label, label, String.append_left_inj, String.append_right_inj]

/-- A label and what follows it. -/
theorem toList_label_append (name value rest : String) :
    (label name value ++ rest).toList =
      name.toList ++ '=' :: '"' :: (value.toList ++ '"' :: rest.toList) := by
  rw [label]
  simp only [String.toList_append, List.append_assoc]
  rfl

/-- Two labels tell their values, unless a quotation mark ends the first value early. -/
theorem eq_of_two_labels {first second value value' other other' : String}
    (h : String.intercalate "," [label first value, label second other] =
      String.intercalate "," [label first value', label second other'])
    (hplain : '"' ∉ value.toList) (hplain' : '"' ∉ value'.toList) :
    value = value' ∧ other = other' := by
  simp only [String.intercalate_cons_cons, String.intercalate_singleton, String.append_assoc] at h
  have hlists := congrArg String.toList h
  rw [toList_label_append, toList_label_append, List.append_cancel_left_eq, List.cons.injEq,
    List.cons.injEq] at hlists
  obtain ⟨hvalue, hrest⟩ := eq_of_first_mark hlists.2.2 hplain hplain'
  rw [String.toList_inj, String.append_right_inj, label_inj] at hrest
  exact ⟨String.toList_inj.1 hvalue, hrest⟩

/-- The text of a value has no brace in it. -/
theorem brace_not_mem_toString (value : Int) : '\x7d' ∉ (toString value).toList := by
  have hdigits (n : Nat) : '\x7d' ∉ n.repr.toList := by
    intro hbrace
    rw [Nat.toList_repr] at hbrace
    exact absurd (Nat.isDigit_of_mem_toDigits (by decide) (by decide) hbrace) (by decide)
  rw [Int.toString_eq_repr, Int.repr_eq_if]
  split
  · exact hdigits _
  · simpa using hdigits (-value).toNat

/-- A sample shows a name, some labels and a value. -/
theorem toList_sample (name : String) (labels : List String) (value : String) :
    (sample name labels value).toList =
      name.toList ++ '\x7b' ::
        ((String.intercalate "," labels).toList ++ '\x7d' :: ' ' :: value.toList) := by
  rw [sample]
  simp only [String.toList_append, List.append_assoc]
  rfl

end Exposition

/-- The name of a role tells it. -/
theorem Role.name_inj {role role' : Role} (h : role.name = role'.name) : role = role' := by
  cases role <;> cases role' <;> simp [name] at h ⊢

/-- The name of a role has no quotation mark. -/
theorem Role.quote_not_mem_name (role : Role) : '"' ∉ role.name.toList := by
  cases role <;> simp [name]

/-- The name of a result tells it. -/
theorem DrainResult.name_inj {result result' : DrainResult} (h : result.name = result'.name) :
    result = result' := by
  cases result <;> cases result' <;> simp [name] at h ⊢

/-- The name of a result has no quotation mark. -/
theorem DrainResult.quote_not_mem_name (result : DrainResult) : '"' ∉ result.name.toList := by
  cases result <;> simp [name]

namespace MetricRegistry

variable {r : MetricRegistry}

/-- The name and the labels tell a series. -/
theorem Query.eq_of_labels {query query' : Query}
    (hfamily : query.family.toList = query'.family.toList)
    (hlabels : String.intercalate "," query.labels = String.intercalate "," query'.labels) :
    query = query' := by
  -- the cases are those of one family; two families have different names
  cases query with
  | nodeCount role =>
    cases query' with
    | nodeCount role' =>
      simp only [labels, String.intercalate_singleton, Exposition.label_inj] at hlabels
      rw [Role.name_inj hlabels]
    | podCount | drains | cycles => simp [family] at hfamily
  | podCount role node =>
    cases query' with
    | podCount role' node' =>
      obtain ⟨hrole, rfl⟩ :=
        Exposition.eq_of_two_labels hlabels role.quote_not_mem_name role'.quote_not_mem_name
      rw [Role.name_inj hrole]
    | nodeCount | drains | cycles => simp [family] at hfamily
  | drains result node =>
    cases query' with
    | drains result' node' =>
      obtain ⟨hresult, rfl⟩ :=
        Exposition.eq_of_two_labels hlabels result.quote_not_mem_name result'.quote_not_mem_name
      rw [DrainResult.name_inj hresult]
    | nodeCount | podCount | cycles => simp [family] at hfamily
  | cycles label =>
    cases query' with
    | cycles label' =>
      simp only [labels, String.intercalate_singleton, Exposition.label_inj] at hlabels
      rw [hlabels]
    | nodeCount | podCount | drains => simp [family] at hfamily

/-- **A sample tells its series**, whatever the labels and the values are. -/
theorem Query.sample_injective {query query' : Query} {value value' : Int}
    (h : query.sample value = query'.sample value') : query = query' := by
  have hlists := congrArg String.toList h
  rw [sample, sample, Exposition.toList_sample, Exposition.toList_sample] at hlists
  have hplain (query : Query) : '\x7b' ∉ query.family.toList := by
    cases query <;> simp [family]
  obtain ⟨hfamily, hrest⟩ := eq_of_first_mark hlists (hplain query) (hplain query')
  have hafter (value : Int) : '\x7d' ∉ ' ' :: (toString value).toList := by
    simpa using Exposition.brace_not_mem_toString value
  have hlabels := eq_of_last_mark hrest (hafter value) (hafter value')
  exact eq_of_labels hfamily (String.toList_inj.1 hlabels)

/-- The series of a registry have different samples. -/
theorem sampleOf_nodup (r : MetricRegistry) : (r.series.map r.sampleOf).Nodup :=
  r.series_nodup.map fun _ _ => Query.sample_injective

/-! ## Reading -/

/-- Reading a value that has a series leaves the registry as it is. -/
theorem afterRead_of_mem {query : Query} (h : query ∈ r.series) : r.afterRead query = r := by
  cases query with
  | nodeCount role => rw [afterRead, Series.ensure_of_mem (nodeCount_mem_series.1 h)]
  | podCount role node => rw [afterRead, Series.ensure_of_mem (podCount_mem_series.1 h)]
  | drains result node => rw [afterRead, Series.ensure_of_mem (drains_mem_series.1 h)]
  | cycles label => rw [afterRead, Series.ensure_of_mem (cycles_mem_series.1 h)]

/-- **Reading a value adds its series**, and no other. -/
theorem mem_series_afterRead {query other : Query} :
    other ∈ (r.afterRead query).series ↔ query = other ∨ other ∈ r.series := by
  -- only the family of the value changes, and in it only the key that was read
  cases query with
  | nodeCount role => cases other <;> simp [afterRead, Series.mem_keys_ensure]
  | podCount role node => cases other <;> simp [afterRead, Series.mem_keys_ensure]
  | drains result node => cases other <;> simp [afterRead, Series.mem_keys_ensure]
  | cycles label => cases other <;> simp [afterRead, Series.mem_keys_ensure]

/-- **Reading a value that has no series adds its sample** to the exposition, and nothing else. -/
theorem lines_afterRead_perm {query : Query} (h : query ∉ r.series) :
    (Exposition.lines (r.afterRead query)).Perm (Exposition.linesOf (r.sampleOf query) ++
      Exposition.lines r) := by
  have hseries : (r.afterRead query).series.Perm (query :: r.series) := by
    refine (List.perm_ext_iff_of_nodup (series_nodup _) (List.nodup_cons.2 ⟨h, series_nodup _⟩)).2
      fun other => ?_
    rw [mem_series_afterRead, List.mem_cons, eq_comm]
  have hsamples : (r.afterRead query).sampleOf = r.sampleOf := by
    funext other
    rw [sampleOf, sampleOf, value_afterRead]
  have hlines := (r.afterRead query).lines_perm
  rw [hsamples, cycleDurations_afterRead] at hlines
  have hadded : (((r.afterRead query).series.map r.sampleOf).flatMap Exposition.linesOf).Perm
      (Exposition.linesOf (r.sampleOf query) ++
        (r.series.map r.sampleOf).flatMap Exposition.linesOf) :=
    (hseries.map r.sampleOf).flatMap_right Exposition.linesOf
  refine hlines.trans ((hadded.append_left _).trans ?_)
  exact (List.perm_append_comm_assoc ..).trans (r.lines_perm.symm.append_left _)

/-- **Reading a value leaves the exposition as it is** exactly if the value has a series already. -/
theorem lines_afterRead_eq_iff {query : Query} :
    Exposition.lines (r.afterRead query) = Exposition.lines r ↔ query ∈ r.series := by
  constructor
  · intro hsame
    by_contra hnew
    have hlonger := (lines_afterRead_perm hnew).length_eq
    have hpos := List.length_pos_of_ne_nil (Exposition.linesOf_ne_nil (r.sampleOf query))
    rw [hsame, List.length_append] at hlonger
    omega
  · intro hold
    rw [afterRead_of_mem hold]

end MetricRegistry

end SpotRebalance
