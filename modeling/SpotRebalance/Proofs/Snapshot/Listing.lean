import SpotRebalance.Snapshot

/-! # What a snapshot takes from a listing

Every load of a snapshot is that of a listed node with the labels of its role, and holds the listed
pods that have not ended and are bound to the name of the node, in listing order. The one exception
is a node whose name was listed before: its load is empty (`mem_loads`). So a load with pods tells
which pods were listed. -/

namespace SpotRebalance.Snapshot

variable {labels : RoleLabels} {nodes : List Node} {pods : List Pod} {load : NodeLoad}

/-- The pods of a listing that are bound to a name. -/
def boundTo (pods : List Pod) (name : String) : List Pod :=
  pods.filter fun p => p.nodeName == some name

/-- **A load holds the pods bound to its node**, unless an earlier node of that name has them. -/
theorem mem_loads (h : load ∈ loads nodes pods) :
    load.node ∈ nodes ∧ (load.pods = [] ∨ load.pods = boundTo pods load.name) := by
  induction nodes generalizing pods with
  | nil => cases h
  | cons n nodes ih =>
    rw [loads] at h
    rcases List.mem_cons.1 h with rfl | h
    · exact ⟨List.mem_cons_self, Or.inr rfl⟩
    · obtain ⟨hnode, hpods⟩ := ih h
      refine ⟨List.mem_cons_of_mem _ hnode, ?_⟩
      rcases hpods with hpods | hpods
      · exact Or.inl hpods
      · rw [boundTo, List.filter_filter] at hpods
        -- a later node of the same name finds no pods, one of another name finds them all
        by_cases hname : load.name = n.name
        · left
          rw [hpods, List.filter_eq_nil_iff]
          simp [hname]
        · right
          rw [hpods, boundTo]
          refine List.filter_congr fun p _ => ?_
          by_cases hbound : p.nodeName = some load.name
          · simp [hbound, hname]
          · simp [hbound]

/-- The pods of a listing that have not ended. -/
def live (pods : List Pod) : List Pod := pods.filter fun p => !p.phase.isTerminal

/-- The pods that have not ended are all that a snapshot takes from a listing of pods. -/
theorem ofListing_congr {others : List Pod} (h : live pods = live others) :
    ofListing labels nodes pods = ofListing labels nodes others := by
  rw [live, live] at h
  rw [ofListing, ofListing, h]

/-- An on-demand node of a snapshot is a listed node with the on-demand label and without the spot
label. -/
theorem mem_onDemand_ofListing (h : load ∈ (ofListing labels nodes pods).onDemand) :
    load ∈ loads nodes (live pods) ∧ load.node.hasLabel labels.onDemand ∧
      ¬ load.node.hasLabel labels.spot := by
  obtain ⟨hload, hrole⟩ := List.mem_filter.1 h
  exact ⟨hload, RoleLabels.roleOf_eq_onDemand_iff.1 (beq_iff_eq.1 hrole)⟩

/-- A spot node of a snapshot is a listed node with the spot label and without the on-demand
label. -/
theorem mem_spot_ofListing (h : load ∈ (ofListing labels nodes pods).spot) :
    load ∈ loads nodes (live pods) ∧ load.node.hasLabel labels.spot ∧
      ¬ load.node.hasLabel labels.onDemand := by
  obtain ⟨hload, hrole⟩ := List.mem_filter.1 (List.mem_mergeSort.1 h)
  exact ⟨hload, RoleLabels.roleOf_eq_spot_iff.1 (beq_iff_eq.1 hrole)⟩

/-! ## Nodes with names of their own -/

/-- A pod that is bound to a name is not bound to another. -/
theorem boundTo_filter_ne {name other : String} (h : name ≠ other) :
    boundTo (pods.filter fun p => p.nodeName != some other) name = boundTo pods name := by
  rw [boundTo, boundTo, List.filter_filter]
  refine List.filter_congr fun p _ => ?_
  by_cases hbound : p.nodeName = some name
  · simp [hbound, h]
  · simp [hbound]

/-- **If no two nodes have the same name**, each load holds all pods that are bound to its node. -/
theorem loads_eq_map (hdistinct : (nodes.map (·.name)).Nodup) :
    loads nodes pods = nodes.map fun n => ⟨n, boundTo pods n.name⟩ := by
  induction nodes generalizing pods with
  | nil => rfl
  | cons n nodes ih =>
    rw [List.map_cons, List.nodup_cons] at hdistinct
    obtain ⟨hfresh, hdistinct⟩ := hdistinct
    rw [loads, ih hdistinct, List.map_cons]
    congr 1
    refine List.map_congr_left fun m hm => ?_
    -- a later node has another name, so no pod of it was taken by this one
    have hne : m.name ≠ n.name := fun heq => hfresh (heq ▸ List.mem_map_of_mem hm)
    rw [boundTo_filter_ne hne]

/-- The loads of the nodes with names of their own. -/
theorem mem_loads_iff (hdistinct : (nodes.map (·.name)).Nodup) :
    load ∈ loads nodes pods ↔ load.node ∈ nodes ∧ load.pods = boundTo pods load.name := by
  rw [loads_eq_map hdistinct, List.mem_map]
  constructor
  · rintro ⟨n, hn, rfl⟩
    exact ⟨hn, rfl⟩
  · rintro ⟨hnode, hpods⟩
    exact ⟨load.node, hnode, by rw [← NodeLoad.name, ← hpods]⟩

/-- The loads of a role. -/
theorem mem_ofListing_iff {role : Role} {kept : List NodeLoad}
    (hkept : (ofListing labels nodes pods).ofRole? role = some kept) :
    load ∈ kept ↔ load ∈ loads nodes (live pods) ∧ labels.roleOf load.node = role := by
  cases role with
  | onDemand =>
    cases hkept
    simp [ofListing, live]
  | spot =>
    cases hkept
    simp [ofListing, live]
  | other => cases hkept

/-- The pods that are counted on a node are the listed ones that are bound to its name and have not
ended. -/
theorem mem_boundTo_live_iff {pod : Pod} {name : String} :
    pod ∈ boundTo (live pods) name ↔ pod ∈ pods ∧ pod.phase.isTerminal = false ∧
      pod.nodeName = some name := by
  simp only [boundTo, live, List.mem_filter, Bool.not_eq_true', beq_iff_eq, and_assoc]

/-- The loads of spot nodes have names of their own. -/
theorem nodup_spot_ofListing (hdistinct : (nodes.map (·.name)).Nodup) :
    ((ofListing labels nodes pods).spot.map (·.name)).Nodup := by
  have hnames : (loads nodes (live pods)).map (·.name) = nodes.map (·.name) := by
    rw [loads_eq_map hdistinct, List.map_map]
    rfl
  have hkept := hnames ▸ hdistinct
  -- the spot nodes are some of the loads, in another order
  refine ((List.mergeSort_perm ..).map _).nodup_iff.2 (hkept.sublist (List.Sublist.map _ ?_))
  exact List.filter_sublist

/-- There are as many loads of a role as nodes. -/
theorem length_loads_filter (role : Role) :
    ((loads nodes pods).filter fun l => labels.roleOf l.node == role).length =
      nodes.countP fun n => labels.roleOf n == role := by
  have hnodes := congrArg (List.countP fun n => labels.roleOf n == role) (loads_map_node nodes pods)
  rw [List.countP_map] at hnodes
  rw [← List.countP_eq_length_filter, ← hnodes]
  rfl

/-- A snapshot has as many loads of a role as the listing has nodes. -/
theorem length_ofListing {role : Role} {kept : List NodeLoad}
    (hkept : (ofListing labels nodes pods).ofRole? role = some kept) :
    kept.length = nodes.countP fun n => labels.roleOf n == role := by
  cases role with
  | onDemand =>
    cases hkept
    exact length_loads_filter ..
  | spot =>
    cases hkept
    exact (List.length_mergeSort _).trans (length_loads_filter ..)
  | other => cases hkept

end SpotRebalance.Snapshot
