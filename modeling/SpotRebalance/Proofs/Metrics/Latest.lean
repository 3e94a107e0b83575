import Mathlib.Data.List.Induction
import SpotRebalance.Metrics.Record

/-! # The latest measurements of nodes

A record keeps the latest count of each role and of each node. What it shows of nodes depends on the
measurements of nodes only (`nodeCounts_applyAll`, `podCounts_applyAll`), and after a reset it shows
for a node exactly what was measured since, if that is one count (`get?_podCounts_iff`). -/

namespace SpotRebalance

/-- Whether a measurement is one of nodes. -/
def Measurement.isOfNodes : Measurement → Bool
  | nodeCount .. | podCountsReset | podCount .. => true
  | drained .. | cycle .. => false

/-- Whether a measurement counts the nodes of a role. -/
def Measurement.isNodeCount : Measurement → Bool
  | nodeCount .. => true
  | podCountsReset | podCount .. | drained .. | cycle .. => false

namespace MetricRecord

variable {record : MetricRecord} {measurements : List Measurement} {role : Role} {name : String}
  {count : Nat}

/-- The counts of roles change by measurements of such counts only. -/
theorem nodeCounts_applyAll (h : ∀ m ∈ measurements, m.isNodeCount = false) :
    (record.applyAll measurements).nodeCounts = record.nodeCounts := by
  induction measurements generalizing record with
  | nil => rfl
  | cons m measurements ih =>
    obtain ⟨hm, hrest⟩ := List.forall_mem_cons.1 h
    rw [applyAll_cons, ih hrest]
    cases m with
    | nodeCount => cases hm
    | podCountsReset | podCount | drained | cycle => rfl

/-- What a record shows of nodes changes by measurements of nodes only. -/
theorem nodes_applyAll (h : ∀ m ∈ measurements, m.isOfNodes = false) :
    (record.applyAll measurements).nodeCounts = record.nodeCounts ∧
      (record.applyAll measurements).podCounts = record.podCounts := by
  induction measurements generalizing record with
  | nil => exact ⟨rfl, rfl⟩
  | cons m measurements ih =>
    obtain ⟨hm, hrest⟩ := List.forall_mem_cons.1 h
    rw [applyAll_cons]
    obtain ⟨hnodes, hpods⟩ := @ih (record.apply m) hrest
    rw [hnodes, hpods]
    cases m with
    | nodeCount | podCountsReset | podCount => cases hm
    | drained | cycle => exact ⟨rfl, rfl⟩

/-- **The latest count of a node** is the one that was measured, if nothing else was measured of it
and nothing was forgotten since. -/
theorem get?_podCounts_iff (hempty : record.podCounts.get? (role, name) = none)
    (hkept : .podCountsReset ∉ measurements)
    (hone : ∀ a b, .podCount role name a ∈ measurements →
      .podCount role name b ∈ measurements → a = b) :
    (record.applyAll measurements).podCounts.get? (role, name) = some count ↔
      .podCount role name count ∈ measurements := by
  -- the induction is on the end of the list, because the last count of a node is the one that stays
  induction measurements using List.reverseRecOn with
  | nil => simp [hempty]
  | append_singleton measurements m ih =>
    have ih := ih (fun h => hkept (List.mem_append_left _ h))
      (fun a b ha hb => hone a b (List.mem_append_left _ ha) (List.mem_append_left _ hb))
    rw [applyAll_append, applyAll_cons, applyAll_nil, List.mem_append, List.mem_singleton, ← ih]
    cases m with
    | podCountsReset => exact absurd (List.mem_append_right _ (List.mem_singleton_self _)) hkept
    | podCount role' name' count' =>
      rw [apply, Series.get?_set]
      by_cases hkey : (role, name) = (role', name')
      · cases hkey
        rw [if_pos rfl, Option.some.injEq]
        constructor
        · rintro rfl
          exact Or.inr rfl
        · rintro (hearlier | hnow)
          · exact (hone _ _ (List.mem_append_left _ (ih.1 hearlier)) (by simp)).symm
          · cases hnow
            rfl
      · rw [if_neg hkey]
        refine ⟨Or.inl, fun h => h.resolve_right fun heq => hkey ?_⟩
        cases heq
        rfl
    | nodeCount | drained | cycle => simp [apply]

end MetricRecord

end SpotRebalance
