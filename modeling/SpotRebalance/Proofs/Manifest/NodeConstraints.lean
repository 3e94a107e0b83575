import SpotRebalance.Manifest.Node
import SpotRebalance.Proofs.Manifest.Affinity
import SpotRebalance.Proofs.Quantity.Denotation

/-! # What pods ask of nodes, and nodes of pods

A pod names the nodes it can be bound to by a required node affinity, and a node keeps pods off by
its taints unless they tolerate them. Both are written in manifests with names of operators and
effects, and with fields that may be missing or empty. Here is what they mean, in the words of the
API:

* an expression is met by labels according to its operator (`ExpressionManifest.MetBy`), a node term
  by the nodes that meet all its expressions, if it has some and asks for no fields
  (`NodeTermManifest.MetBy`);
* a toleration tolerates the taints of its effect, key and value (`TolerationManifest.Tolerates`).

Reading a manifest keeps these meanings, and it keeps the taints of a node
(`PodManifest.constraintsKept`). What it cannot read is never more lenient: an unknown operator is
met by nothing, and an unknown toleration tolerates nothing. -/

namespace SpotRebalance

/-! ## Node affinity -/

/-- **A text writes a number** that fits a signed 64-bit word. -/
def WritesInteger (s : String) (k : ℤ) : Prop :=
  QuantityText.Signed s.toList k ∧ Text.int64Min ≤ k ∧ k ≤ Text.int64Max

/-- A text is read as the number that it writes. -/
theorem integer?_eq_some_iff {s : String} {k : ℤ} : integer? s = some k ↔ WritesInteger s k :=
  QuantityText.signedWithin?_eq_some_iff

/-- **Labels meet an expression.** Nothing meets one with another operator than these, and nothing
one that compares with no number or with several. -/
inductive ExpressionManifest.MetBy (labels : Labels) : ExpressionManifest → Prop where
  /-- The label has one of the values. -/
  | oneOf {key value values} (label : labels.get? key = some value) (listed : value ∈ values) :
    MetBy labels ⟨key, "In", values⟩
  /-- The label has none of the values, or it is absent. -/
  | noneOf {key values} (unlisted : ∀ value, labels.get? key = some value → value ∉ values) :
    MetBy labels ⟨key, "NotIn", values⟩
  /-- The label is there. -/
  | present {key value values} (label : labels.get? key = some value) :
      MetBy labels ⟨key, "Exists", values⟩
  /-- The label is absent. -/
  | absent {key values} (label : labels.get? key = none) :
      MetBy labels ⟨key, "DoesNotExist", values⟩
  /-- The label is a number above the only value. -/
  | above {key value bound x y} (label : labels.get? key = some value)
      (number : WritesInteger value x)
    (limit : WritesInteger bound y) (above : y < x) : MetBy labels ⟨key, "Gt", [bound]⟩
  /-- The label is a number below the only value. -/
  | below {key value bound x y} (label : labels.get? key = some value)
      (number : WritesInteger value x)
    (limit : WritesInteger bound y) (below : x < y) : MetBy labels ⟨key, "Lt", [bound]⟩

/-- **The labels of a node meet a term**: it asks for no fields, and they meet all its expressions,
of which there are some. -/
structure NodeTermManifest.MetBy (labels : Labels) (t : NodeTermManifest) : Prop where
  /-- It asks for no fields. -/
  fields : t.fields = []
  /-- It has expressions. -/
  expressions : t.expressions ≠ []
  /-- They are all met. -/
  met : ∀ e ∈ t.expressions, e.MetBy labels

section Affinity

variable {labels : Labels}

/-- A comparison of a label with the only value. -/
theorem Requirement.compares_iff {r : Requirement} {related : Int → Int → Bool} :
    r.compares labels related ↔
      ∃ value bound x y, labels.get? r.key = some value ∧ r.values = [bound] ∧
        WritesInteger value x ∧ WritesInteger bound y ∧ related x y := by
  simp only [← integer?_eq_some_iff]
  constructor
  · intro h
    rw [compares] at h
    split at h
    · rename_i x y hlabel hbound
      obtain ⟨value, hvalue, hx⟩ := Option.bind_eq_some_iff.1 hlabel
      rw [bound?] at hbound
      split at hbound
      · rename_i bound hvalues
        exact ⟨value, bound, x, y, hvalue, hvalues, hx, hbound, h⟩
      · cases hbound
    · cases h
  · rintro ⟨value, bound, x, y, hvalue, hvalues, hx, hy, h⟩
    have hbound : r.bound? = some y := by
      rw [bound?, hvalues]
      exact hy
    rw [compares, hvalue, Option.bind_some, hx, hbound]
    exact h

/-- **An expression is met** exactly if its operator is known and the labels meet the requirement
with it. -/
theorem ExpressionManifest.metBy_iff_holds {e : ExpressionManifest} :
    e.MetBy labels ↔ e.Holds labels := by
  constructor
  · intro h
    cases h with
    | oneOf label listed => exact ⟨.oneOf, rfl, by simp [Requirement.accepts, label, listed]⟩
    | @noneOf key values unlisted =>
      refine ⟨.noneOf, rfl, ?_⟩
      cases hlabel : labels.get? key with
      | none => simp [Requirement.accepts, hlabel]
      | some value => simp [Requirement.accepts, hlabel, unlisted value hlabel]
    | present label =>
      exact ⟨.present, rfl, by simp [Requirement.accepts, NameTable.contains, label]⟩
    | absent label => exact ⟨.absent, rfl, by simp [Requirement.accepts, NameTable.contains, label]⟩
    | above label number limit above =>
      exact ⟨.above, rfl,
        Requirement.compares_iff.2 ⟨_, _, _, _, label, rfl, number, limit, decide_eq_true above⟩⟩
    | below label number limit below =>
      exact ⟨.below, rfl,
        Requirement.compares_iff.2 ⟨_, _, _, _, label, rfl, number, limit, decide_eq_true below⟩⟩
  · rintro ⟨operator, hoperator, haccepts⟩
    obtain ⟨key, name, values⟩ := e
    -- the name is that of the operator
    obtain rfl : operator.name = name := by
      have hname := List.find?_some hoperator
      exact eq_of_beq hname
    cases operator with
    | oneOf =>
      obtain ⟨value, hlabel, hlisted⟩ := (Option.any_eq_true ..).1 haccepts
      exact .oneOf hlabel (by simpa using hlisted)
    | noneOf =>
      refine .noneOf fun value hlabel => ?_
      simpa [Requirement.accepts, hlabel] using haccepts
    | present =>
      obtain ⟨value, hlabel⟩ := Option.isSome_iff_exists.1 haccepts
      exact .present hlabel
    | absent =>
      refine .absent ?_
      simpa [Requirement.accepts, NameTable.contains] using haccepts
    | above =>
      obtain ⟨value, bound, x, y, hlabel, hvalues, hx, hy, h⟩ := Requirement.compares_iff.1 haccepts
      obtain rfl : values = [bound] := hvalues
      exact .above hlabel hx hy (of_decide_eq_true h)
    | below =>
      obtain ⟨value, bound, x, y, hlabel, hvalues, hx, hy, h⟩ := Requirement.compares_iff.1 haccepts
      obtain rfl : values = [bound] := hvalues
      exact .below hlabel hx hy (of_decide_eq_true h)

/-- **A node term keeps its meaning.** -/
theorem NodeTermManifest.accepts_toTerm_iff {t : NodeTermManifest} :
    t.toTerm.accepts labels ↔ t.MetBy labels := by
  have hexpressions : (∀ r ∈ t.expressions.map (·.toRequirement), r.accepts labels = true) ↔
      ∀ e ∈ t.expressions, e.MetBy labels := by
    simp only [List.forall_mem_map, ExpressionManifest.accepts_toRequirement_iff,
      ExpressionManifest.metBy_iff_holds]
  rw [toTerm]
  split
  · rename_i hfields
    rw [NodeSelectorTerm.accepts, Bool.and_eq_true, List.all_eq_true, hexpressions]
    simp only [Bool.not_eq_true', List.isEmpty_eq_false_iff, ne_eq, List.map_eq_nil_iff]
    exact ⟨fun h => ⟨List.isEmpty_iff.1 hfields, h.1, h.2⟩, fun h => ⟨h.expressions, h.met⟩⟩
  · rename_i hfields
    exact iff_of_false (by simp [NodeSelectorTerm.accepts]) fun h =>
      hfields (List.isEmpty_iff.2 h.fields)

/-- **A node affinity keeps its meaning**, if it has terms. -/
theorem NodeAffinity.accepts_iff_metBy {ts : List NodeTermManifest} (h : ts ≠ []) :
    NodeAffinity.accepts ⟨ts.map (·.toTerm)⟩ labels ↔ ∃ t ∈ ts, t.MetBy labels := by
  have hsome : (ts.map (·.toTerm)).isEmpty = false := by simpa using h
  simp [accepts, hsome, NodeTermManifest.accepts_toTerm_iff]

end Affinity

/-! ## Taints -/

/-- **A toleration tolerates a taint.** A name that is missing and one that is empty mean the same.
No toleration with another operator or effect than these tolerates anything. -/
inductive TolerationManifest.Tolerates (t : TolerationManifest) (taint : Taint) : Prop where
  /-- It asks for the same key and value; without a key it tolerates nothing. A value that is
  missing is empty. -/
  | equal (operator : t.operator = none ∨ t.operator = some "" ∨ t.operator = some "Equal")
    (effect : t.effect = none ∨ t.effect = some "" ∨ t.effect = some taint.effect.name)
    (key : t.key = some taint.key) (named : taint.key ≠ "")
    (value : t.value.getD "" = taint.value.getD "")
  /-- It asks for the same key, with any value; without a key it tolerates all keys. -/
  | any (operator : t.operator = some "Exists")
    (effect : t.effect = none ∨ t.effect = some "" ∨ t.effect = some taint.effect.name)
    (key : t.key = none ∨ t.key = some "" ∨ t.key = some taint.key)

section Taints

variable {t : TolerationManifest} {taint : Taint}

/-- When the operator is that of equality. -/
theorem TolerationManifest.operator?_eq_equalValue_iff :
    t.operator? = some .equalValue ↔ t.operator = none ∨ t.operator = some "" ∨
      t.operator = some "Equal" := by
  rw [operator?]
  split
  · rename_i hnone
    simp [hnone]
  · rename_i name hname
    simp only [hname]
    split
    · rename_i hequal
      simpa using hequal
    · rename_i hother
      split <;> simpa using hother

/-- When the operator is that of any value. -/
theorem TolerationManifest.operator?_eq_anyValue_iff :
    t.operator? = some .anyValue ↔ t.operator = some "Exists" := by
  rw [operator?]
  split
  · rename_i hnone
    simp [hnone]
  · rename_i name hname
    simp only [hname]
    split
    · rename_i hequal
      rcases hequal with rfl | rfl <;> simp
    · simp

/-- An effect that is known by a name has that name. -/
theorem TaintEffect.name_of_ofName? {name : String} {effect : TaintEffect}
    (h : ofName? name = some effect) :
    effect.name = name := by
  have hname := List.find?_some h
  exact eq_of_beq hname

/-- When the effect is known and covers that of a taint. -/
theorem TolerationManifest.exists_effect?_iff :
    (∃ effect, t.effect? = some effect ∧ effect.all (· == taint.effect)) ↔
      t.effect = none ∨ t.effect = some "" ∨ t.effect = some taint.effect.name := by
  rw [effect?]
  split
  · rename_i hnone
    simp [hnone]
  · rename_i name hname
    simp only [hname, reduceCtorEq, Option.some.injEq, false_or]
    split
    · rename_i hempty
      simp [hempty]
    · rename_i hwritten
      simp only [hwritten, false_or]
      constructor
      · rintro ⟨effect, hread, hcovers⟩
        obtain ⟨known, hofName, rfl⟩ := Option.map_eq_some_iff.1 hread
        rw [← TaintEffect.name_of_ofName? hofName, eq_of_beq hcovers]
      · rintro rfl
        exact ⟨some taint.effect, by simp, by simp⟩

/-- Which keys and values a toleration covers once it is read: an empty key counts as none. -/
theorem TolerationManifest.coversKey_read_iff {operator : TolerationOperator} :
    Toleration.coversKey ⟨t.key.filter (· != ""), operator, t.value, none⟩ taint ↔
      (t.key = none ∨ t.key = some "") ∧ operator = .anyValue ∨
        (t.key = some taint.key ∧ taint.key ≠ "") ∧
          (operator = .anyValue ∨ t.value.getD "" = taint.value.getD "") := by
  have hfilter : (t.key.filter (· != "")).filter (· != "") = t.key.filter (· != "") := by
    simp [Option.filter_filter]
  rw [Toleration.coversKey, hfilter]
  cases hkey : t.key.filter (· != "") with
  | none =>
    have hunnamed : t.key = none ∨ t.key = some "" := by
      cases hgiven : t.key with
      | none => simp
      | some key => simpa [hgiven] using hkey
    rcases hunnamed with hnone | hempty
    · simp [hnone]
    · simp [hempty]
  | some key =>
    obtain ⟨hgiven, hnamed⟩ := Option.filter_eq_some_iff.1 hkey
    have hne : key ≠ "" := by simpa using hnamed
    simp only [hgiven, Bool.and_eq_true, Bool.or_eq_true, beq_iff_eq, reduceCtorEq,
      Option.some.injEq, hne, or_self, false_and, false_or]
    constructor
    · rintro ⟨rfl, hvalue⟩
      exact ⟨⟨rfl, hne⟩, hvalue⟩
    · rintro ⟨⟨rfl, -⟩, hvalue⟩
      exact ⟨rfl, hvalue⟩

/-- **A toleration keeps its meaning**, and one that cannot be read tolerates nothing. -/
theorem TolerationManifest.exists_tolerates_iff :
    (∃ tol, t.toToleration? = some tol ∧ tol.tolerates taint) ↔ t.Tolerates taint := by
  have hread : (∃ tol, t.toToleration? = some tol ∧ tol.tolerates taint) ↔
      ∃ operator, t.operator? = some operator ∧
        (∃ effect, t.effect? = some effect ∧ effect.all (· == taint.effect)) ∧
        Toleration.coversKey ⟨t.key.filter (· != ""), operator, t.value, none⟩ taint := by
    simp only [toToleration?, Option.bind_eq_bind, Option.bind_eq_some_iff, Option.pure_def,
      Option.some.injEq, Toleration.tolerates, Bool.and_eq_true]
    constructor
    · rintro ⟨_, ⟨operator, hoperator, effect, heffect, rfl⟩, hcovers, hkey⟩
      exact ⟨operator, hoperator, ⟨effect, heffect, hcovers⟩, hkey⟩
    · rintro ⟨operator, hoperator, ⟨effect, heffect, hcovers⟩, hkey⟩
      exact ⟨_, ⟨operator, hoperator, effect, heffect, rfl⟩, hcovers, hkey⟩
  rw [hread, exists_effect?_iff]
  constructor
  · rintro ⟨operator, hoperator, heffect, hkey⟩
    cases operator with
    | equalValue =>
      rcases coversKey_read_iff.1 hkey with ⟨-, hany⟩ | ⟨⟨hsame, hnamed⟩, hvalue⟩
      · cases hany
      · exact .equal (operator?_eq_equalValue_iff.1 hoperator) heffect hsame hnamed
          (hvalue.resolve_left nofun)
    | anyValue =>
      refine .any (operator?_eq_anyValue_iff.1 hoperator) heffect ?_
      rcases coversKey_read_iff.1 hkey with ⟨hunnamed, -⟩ | ⟨⟨hsame, -⟩, -⟩
      · exact hunnamed.imp_right Or.inl
      · exact Or.inr (Or.inr hsame)
  · intro h
    cases h with
    | equal operator effect key named value =>
      exact ⟨_, operator?_eq_equalValue_iff.2 operator, effect,
        coversKey_read_iff.2 (Or.inr ⟨⟨key, named⟩, Or.inr value⟩)⟩
    | any operator effect key =>
      refine ⟨_, operator?_eq_anyValue_iff.2 operator, effect, coversKey_read_iff.2 ?_⟩
      rcases key with hnone | hempty | hsame
      · exact Or.inl ⟨Or.inl hnone, rfl⟩
      · exact Or.inl ⟨Or.inr hempty, rfl⟩
      · by_cases hnamed : taint.key = ""
        · exact Or.inl ⟨Or.inr (hnamed ▸ hsame), rfl⟩
        · exact Or.inr ⟨⟨hsame, hnamed⟩, Or.inl rfl⟩

/-- **A taint is kept** exactly as it is written, if its effect is known. -/
theorem TaintManifest.toTaint?_eq_some_iff {t : TaintManifest} :
    t.toTaint? = some taint ↔ t = ⟨taint.key, taint.value, taint.effect.name⟩ := by
  rw [toTaint?, Option.map_eq_some_iff]
  constructor
  · rintro ⟨effect, hknown, rfl⟩
    rw [TaintEffect.name_of_ofName? hknown]
  · rintro rfl
    exact ⟨taint.effect, by simp, rfl⟩

end Taints

/-! ## Pods and nodes -/

/-- **What pods ask of nodes, and nodes of pods, is kept** when both are read. -/
structure ConstraintsKept (m : PodManifest) (n : NodeManifest) (pod : Pod)
    (node : Node) : Prop where
  /-- The node affinity accepts the node exactly if its labels meet one of the terms, if there are
  any. -/
  affinity : ∀ spec, m.spec = some spec → spec.affinity.nodeTerms ≠ [] →
    (pod.nodeAffinity.accepts node.labels ↔ ∃ t ∈ spec.affinity.nodeTerms,
      t.MetBy n.metadata.labels)
  /-- The pod tolerates the taints that a toleration in its manifest tolerates, and no others. -/
  tolerations : ∀ taint, (∃ tol ∈ pod.tolerations, tol.tolerates taint) ↔
    ∃ spec, m.spec = some spec ∧ ∃ t ∈ spec.tolerations, t.Tolerates taint
  /-- The node keeps all its taints that block scheduling. -/
  taints : ∀ t ∈ n.taints, t.effect = "NoSchedule" ∨ t.effect = "NoExecute" →
    ∃ taint ∈ node.taints, taint.key = t.key ∧ taint.value = t.value ∧
      taint.effect.name = t.effect ∧ taint.effect.blocks
  /-- The node has no other taints. -/
  no_others : ∀ taint ∈ node.taints, ⟨taint.key, taint.value, taint.effect.name⟩ ∈ n.taints

/-- The taints of a node are those in its manifest whose effect is known. -/
theorem NodeManifest.mem_taints_iff {n : NodeManifest} {node : Node} (hnode : n.toNode? = some node)
    {taint : Taint} :
    taint ∈ node.taints ↔ ⟨taint.key, taint.value, taint.effect.name⟩ ∈ n.taints := by
  obtain ⟨name, -, rfl⟩ := Option.map_eq_some_iff.1 hnode
  simp only [List.mem_filterMap, TaintManifest.toTaint?_eq_some_iff, exists_eq_right]

/-- The tolerations of a pod are those in its manifest that can be read. -/
theorem PodManifest.exists_tolerates_iff {m : PodManifest} {pod : Pod} (hpod : m.toPod? = some pod)
    {taint : Taint} :
    (∃ tol ∈ pod.tolerations, tol.tolerates taint) ↔
      ∃ spec, m.spec = some spec ∧ ∃ t ∈ spec.tolerations, t.Tolerates taint := by
  obtain ⟨name, -, rfl⟩ := Option.map_eq_some_iff.1 hpod
  cases hspec : m.spec with
  | none => simp [withoutSpec]
  | some spec =>
    simp only [withSpec, List.mem_filterMap, Option.some.injEq, exists_eq_left',
      ← TolerationManifest.exists_tolerates_iff]
    constructor
    · rintro ⟨tol, ⟨t, ht, hread⟩, htolerates⟩
      exact ⟨t, ht, tol, hread, htolerates⟩
    · rintro ⟨t, ht, tol, hread, htolerates⟩
      exact ⟨tol, ⟨t, ht, hread⟩, htolerates⟩

/-- **Reading a pod and a node keeps what they ask of each other.** -/
theorem PodManifest.constraintsKept {m : PodManifest} {n : NodeManifest} {pod : Pod} {node : Node}
    (hpod : m.toPod? = some pod) (hnode : n.toNode? = some node) :
    ConstraintsKept m n pod node where
  affinity := by
    intro spec hspec hterms
    have hlabels : node.labels = n.metadata.labels := by
      obtain ⟨name, -, rfl⟩ := Option.map_eq_some_iff.1 hnode
      rfl
    have haffinity : pod.nodeAffinity = ⟨spec.affinity.nodeTerms.map (·.toTerm)⟩ := by
      obtain ⟨name, -, rfl⟩ := Option.map_eq_some_iff.1 hpod
      rw [hspec]
      rfl
    rw [hlabels, haffinity]
    exact NodeAffinity.accepts_iff_metBy hterms
  tolerations taint := exists_tolerates_iff hpod
  taints := by
    intro t ht heffect
    -- either name is that of an effect that blocks
    obtain ⟨effect, hname, hblocks⟩ : ∃ effect : TaintEffect, effect.name = t.effect ∧
      effect.blocks := by
      rcases heffect with heffect | heffect
      · exact ⟨.noSchedule, heffect.symm, rfl⟩
      · exact ⟨.noExecute, heffect.symm, rfl⟩
    refine ⟨⟨t.key, t.value, effect⟩, (NodeManifest.mem_taints_iff hnode).2 ?_, rfl, rfl,
      hname, hblocks⟩
    rwa [hname]
  no_others taint := (NodeManifest.mem_taints_iff hnode).1

/-- A pod that runs on nodes with eight processors or more. One of its terms asks for the zone by an
operator that is not known, and one of its tolerations names an effect that is not. -/
def renderPod : PodManifest where
  metadata := { name := some "render" }
  spec := some {
    affinity := { nodeTerms := [
      { expressions :=
          [{ key := "cpus", operator := "Gt", values := ["7"] },
            { key := "zone", operator := "Near" }] },
      { expressions := [{ key := "cpus", operator := "Gt", values := ["7"] }] }] }
    tolerations := [{ key := some "spot", operator := some "", effect := some "" },
      { operator := some "Exists", effect := some "Sometimes" }] }

/-- A spot node with sixteen processors that is about to be maintained. -/
def renderNode : NodeManifest where
  metadata := { name := some "spot-1", labels := .ofList [("cpus", "+16")] }
  taints :=
    [{ key := "spot", value := some "", effect := "NoSchedule" },
      { key := "drain", effect := "NoExecute" }]

/-- The pod finds the node big enough and tolerates one of its two taints. -/
theorem constraintsKept_render :
    ∃ pod node, renderPod.toPod? = some pod ∧ renderNode.toNode? = some node ∧
      ConstraintsKept renderPod renderNode pod node ∧
      pod.nodeAffinity.accepts node.labels ∧
      (∃ tol ∈ pod.tolerations, tol.tolerates ⟨"spot", some "", .noSchedule⟩) ∧
      ¬ ∃ tol ∈ pod.tolerations, tol.tolerates ⟨"drain", none, .noExecute⟩ := by
  have hkept := PodManifest.constraintsKept (m := renderPod) (n := renderNode) rfl rfl
  refine ⟨_, _, rfl, rfl, hkept, ?_, ?_, ?_⟩
  · refine (hkept.affinity _ rfl (by simp)).2 ⟨_, .tail _ (.head _), rfl, by simp, ?_⟩
    have hlabel : renderNode.metadata.labels.get? "cpus" = some "+16" := by decide +kernel
    have hnumber : WritesInteger "+16" 16 := integer?_eq_some_iff.1 (by decide +kernel)
    have hlimit : WritesInteger "7" 7 := integer?_eq_some_iff.1 (by decide +kernel)
    exact List.forall_mem_singleton.2 (.above hlabel hnumber hlimit (by decide))
  · refine (hkept.tolerations _).2 ⟨_, rfl, _, .head _, ?_⟩
    exact .equal (Or.inr (Or.inl rfl)) (Or.inr (Or.inl rfl)) rfl (by decide) rfl
  · rw [hkept.tolerations]
    rintro ⟨spec, ⟨⟩, t, ht, htolerates⟩
    rcases List.mem_cons.1 ht with rfl | ht
    · -- the other key
      cases htolerates with
      | equal operator effect key => exact absurd key (by decide)
      | any operator => exact absurd operator (by decide)
    · -- an effect that is not known
      rw [List.mem_singleton.1 ht] at htolerates
      cases htolerates with
      | equal operator => exact absurd operator (by decide)
      | any operator effect => exact absurd effect (by decide)

end SpotRebalance
