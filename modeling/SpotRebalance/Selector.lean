import SpotRebalance.Requirement

/-! # Selectors

Three ways to select by labels. A `LabelSelector` is a conjunction, so the empty one accepts all
labels. A `NodeSelectorTerm` is a conjunction too, but the empty one accepts none; a `NodeAffinity`
accepts what one of its terms accepts, and everything if it has no terms. A `PodAffinityTerm`
selects pods in some namespaces, the owner's when it lists none. -/

namespace SpotRebalance

/-- A conjunction of exact labels and requirements. -/
structure LabelSelector where
  /-- Labels that must have exactly these values. -/
  labels : Labels := ∅
  /-- Requirements that must hold. -/
  requirements : List Requirement := []
  deriving DecidableEq, Inhabited

namespace LabelSelector

/-- Whether a selector constrains nothing. -/
def isEmpty (s : LabelSelector) : Bool := s.labels.isEmpty && s.requirements.isEmpty

/-- Whether labels satisfy every constraint. -/
def accepts (s : LabelSelector) (labels : Labels) : Bool :=
  s.labels.entries.all (fun e => labels.get? e.1 == some e.2) &&
    s.requirements.all (·.accepts labels)

/-- Adds an exact label. -/
def withLabel (s : LabelSelector) (key value : String) : LabelSelector :=
  { s with labels := s.labels.insert key value }

theorem accepts_iff {s : LabelSelector} {labels : Labels} :
    s.accepts labels ↔
      (∀ key value, s.labels.get? key = some value → labels.get? key = some value) ∧
        ∀ r ∈ s.requirements, r.accepts labels := by
  simp only [accepts, Bool.and_eq_true, List.all_eq_true, beq_iff_eq]
  refine and_congr ⟨fun h key value hget => ?_, fun h e he => ?_⟩ Iff.rfl
  · exact h (key, value) (NameTable.mem_entries_iff.2 hget)
  · exact h e.1 e.2 (NameTable.mem_entries_iff.1 he)

end LabelSelector

/-- A conjunction of requirements on the labels of a node. -/
structure NodeSelectorTerm where
  /-- The requirements. -/
  requirements : List Requirement := []
  deriving DecidableEq, Inhabited

/-- Whether node labels satisfy a term; a term without requirements accepts no node. -/
def NodeSelectorTerm.accepts (t : NodeSelectorTerm) (labels : Labels) : Bool :=
  !t.requirements.isEmpty && t.requirements.all (·.accepts labels)

/-- The nodes a pod can be bound to: those that one of the terms accepts. -/
structure NodeAffinity where
  /-- The alternatives; none of them means any node. -/
  terms : List NodeSelectorTerm := []
  deriving DecidableEq, Inhabited

/-- Whether node labels satisfy an affinity. -/
def NodeAffinity.accepts (a : NodeAffinity) (labels : Labels) : Bool :=
  a.terms.isEmpty || a.terms.any (·.accepts labels)

/-- A group of pods within a topology domain that the owner wants near, or far. -/
structure PodAffinityTerm where
  /-- The labels of the pods. -/
  selector : LabelSelector := {}
  /-- The node label whose value names the domain of a node. -/
  topologyKey : String
  /-- The namespaces of the pods; none listed means the owner's. -/
  namespaces : List String := []
  deriving DecidableEq

/-- Whether a term of an owner in `ownerNamespace` selects a pod of the given namespace and
labels. -/
def PodAffinityTerm.selects (t : PodAffinityTerm) (ownerNamespace podNamespace : String)
    (labels : Labels) : Bool :=
  (if t.namespaces.isEmpty then podNamespace == ownerNamespace
    else t.namespaces.contains podNamespace) && t.selector.accepts labels

end SpotRebalance
