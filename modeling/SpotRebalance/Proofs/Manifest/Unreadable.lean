import SpotRebalance.Manifest.Pod

/-! # Requests that cannot be read

A pod whose requests are not known remembers a fault. It has one exactly if some quantity among the
requests of its containers, its init containers or its overhead cannot be read, wherever in these
lists it stands (`isSome_requestError_iff`). The name of the resource makes no difference. -/

namespace SpotRebalance

/-- A quantity has no amount exactly if its text denotes none. -/
theorem ResourceList.amount_eq_error_iff (name : String) {text : String} :
    (∃ e, amount name text = .error e) ↔ Quantity.ofText? text = none := by
  rw [amount, Quantity.ofText]
  cases Quantity.ofText? text <;> simp [Except.map]

/-- **A resource list has a fault** exactly if one of its quantities cannot be read. -/
theorem ResourceList.isSome_fault?_iff {list : ResourceList} :
    list.fault?.isSome ↔ ∃ name text, list.get? name = some text ∧
      Quantity.ofText? text = none := by
  rw [fault?, List.findSome?_isSome_iff, Prod.exists]
  refine exists_congr fun name => exists_congr fun text => ?_
  rw [NameTable.mem_entries_iff, ← amount_eq_error_iff name]
  refine and_congr_right fun _ => ?_
  cases amount name text <;> simp

/-- **A manifest has an unreadable request**: a quantity among the requests of a container, of an
init container or of the overhead denotes nothing. -/
def PodManifest.HasUnreadableRequest (m : PodManifest) : Prop :=
  ∃ spec list name text, m.spec = some spec ∧
    (list = spec.overhead ∨ ∃ c ∈ spec.containers ++ spec.initContainers, list = c.requests) ∧
    list.get? name = some text ∧ Quantity.ofText? text = none

/-- The lists that are added up are the overhead and the requests of all containers. -/
theorem PodSpecManifest.mem_resourceLists_iff {s : PodSpecManifest} {list : ResourceList} :
    list ∈ s.resourceLists ↔ list = s.overhead ∨ ∃ c ∈ s.containers ++ s.initContainers,
      list = c.requests := by
  rw [resourceLists, ← List.map_append, List.mem_append, List.mem_singleton, List.mem_map, or_comm]
  simp only [eq_comm]

/-- **A pod remembers a fault** exactly if its manifest has an unreadable request. -/
theorem PodManifest.isSome_requestError_iff {m : PodManifest} {pod : Pod}
    (hpod : m.toPod? = some pod) :
    pod.requestError.isSome ↔ m.HasUnreadableRequest := by
  obtain ⟨name, -, rfl⟩ := Option.map_eq_some_iff.1 hpod
  rw [HasUnreadableRequest]
  cases hspec : m.spec with
  | none => simp [withoutSpec]
  | some spec =>
    change spec.requestFault?.isSome ↔ _
    rw [PodSpecManifest.requestFault?, List.findSome?_isSome_iff]
    constructor
    · rintro ⟨list, hlist, hfault⟩
      obtain ⟨key, text, hget, htext⟩ := ResourceList.isSome_fault?_iff.1 hfault
      exact ⟨spec, list, key, text, rfl, PodSpecManifest.mem_resourceLists_iff.1 hlist, hget, htext⟩
    · rintro ⟨_, list, key, text, ⟨⟩, hlist, hget, htext⟩
      exact ⟨list, PodSpecManifest.mem_resourceLists_iff.2 hlist,
        ResourceList.isSome_fault?_iff.2 ⟨key, text, hget, htext⟩⟩

end SpotRebalance
