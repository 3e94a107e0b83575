import SpotRebalance.Manifest.DisruptionBudget
import SpotRebalance.Proofs.Manifest.AffinityChange

/-! # Expressions that cannot be read

An expression whose operator is not known is read as a requirement that no labels meet. Whether that
is on the safe side depends on where it stands. Where labels have to meet it, in node affinities and
in groups that must be near, it is false and refuses. Where labels that meet it are kept away, in
groups that must be far, or are protected, in the selectors of disruption budgets, it makes the
whole selector accept nothing, and lifts what the rest of the selector would impose.

To say so, a manifest is compared with one that differs at one expression. In the first two places
the expression is replaced by one that is false (`AffinityManifest.Falsified`), and the pods are
treated alike (`Pod.TreatedAlike`). In the last two it is taken out (`AffinityManifest.FarWithout`,
`BudgetManifest.Without`), and what was allowed stays allowed exactly if the rest does not impose
anything (`AffinityTermManifest.KeepsOff`, `BudgetManifest.Forbids`). All four cases together are
`ExpressionManifest.Effects`, which every expression with an unknown operator has
(`ExpressionManifest.effects_of_unknown`). -/

namespace SpotRebalance

/-! ## Selectors that differ at one expression -/

/-- Two lists agree but for one place, where their members are related. -/
def ChangedOnce {α : Type} (R : α → α → Prop) (xs ys : List α) : Prop :=
  ∃ before x y after, xs = before ++ x :: after ∧ ys = before ++ y :: after ∧ R x y

/-- The operator of an expression is not known. -/
def ExpressionManifest.Unknown (e : ExpressionManifest) : Prop :=
  SelectorOperator.ofName? e.operator = none

/-- An expression is false: it holds of no labels. -/
def ExpressionManifest.Never (e : ExpressionManifest) : Prop := ∀ labels, ¬ e.Holds labels

/-- An expression among others is replaced by a false one. -/
def ExpressionManifest.Falsified (e : ExpressionManifest) :
    List ExpressionManifest → List ExpressionManifest → Prop :=
  ChangedOnce fun x y => x = e ∧ y.Never

/-- An expression of a selector is replaced by a false one. -/
def SelectorManifest.Falsified (e : ExpressionManifest) (s s' : SelectorManifest) : Prop :=
  ∃ expressions, e.Falsified s.expressions expressions ∧ s' = { s with expressions }

/-- An expression of a selector is taken out. -/
def SelectorManifest.Without (e : ExpressionManifest) (s s' : SelectorManifest) : Prop :=
  ∃ before after, s.expressions = before ++ e :: after ∧
    s' = { s with expressions := before ++ after }

/-- An expression of a node term, on labels or on fields, is replaced by a false one. -/
inductive NodeTermManifest.Falsified (e : ExpressionManifest) :
    NodeTermManifest → NodeTermManifest → Prop where
  /-- It is an expression on labels. -/
  | label {t expressions} (h : e.Falsified t.expressions expressions) :
      Falsified e t { t with expressions }
  /-- It is an expression on fields. -/
  | field {t fields} (h : e.Falsified t.fields fields) : Falsified e t { t with fields }

/-- The selector of a term is changed. -/
def AffinityTermManifest.Changed (R : SelectorManifest → SelectorManifest → Prop)
    (t t' : AffinityTermManifest) : Prop :=
  ∃ s s', t.selector = some s ∧ R s s' ∧ t' = { t with selector := some s' }

/-- **An expression that labels have to meet is replaced by a false one**. -/
inductive AffinityManifest.Falsified (e : ExpressionManifest) :
    AffinityManifest → AffinityManifest → Prop where
  /-- It is an expression of a node term. -/
  | node {a nodeTerms} (h : ChangedOnce (NodeTermManifest.Falsified e) a.nodeTerms nodeTerms) :
    Falsified e a { a with nodeTerms }
  /-- It is an expression of a group that must be near. -/
  | near {a near} (h : ChangedOnce (AffinityTermManifest.Changed (SelectorManifest.Falsified e))
      a.near near) :
    Falsified e a { a with near }

/-- **An expression of a group that must be far is taken out**, which leaves the given term. -/
def AffinityManifest.FarWithout (e : ExpressionManifest) (rest : AffinityTermManifest)
    (a a' : AffinityManifest) : Prop :=
  ∃ before t after, a.far = before ++ t :: after ∧ t.Changed (SelectorManifest.Without e) rest ∧
    a' = { a with far := before ++ rest :: after }

/-- **An expression of a budget is taken out.** -/
def BudgetManifest.Without (e : ExpressionManifest) (b b' : BudgetManifest) : Prop :=
  ∃ s s', b.selector = some s ∧ s.Without e s' ∧ b' = { b with selector := some s' }

/-! ## What a selector imposes -/

/-- **A budget forbids to evict a pod.** -/
structure BudgetManifest.Forbids (b : BudgetManifest) (p : Pod) : Prop where
  /-- The pod is in its namespace. -/
  inScope : b.metadata.namespaceOrDefault = p.ns
  /-- The labels of the pod meet its selector. -/
  selected : ∃ s, b.selector = some s ∧ s.Holds p.labels
  /-- It allows no disruption, or does not say how many. -/
  exhausted : b.disruptionsAllowed.getD 0 < 1

/-- **Two pods are treated alike**: each fits where the other does, others fit beside each where
they fit beside the other, and each is evicted where the other is. -/
structure Pod.TreatedAlike (p q : Pod) : Prop where
  /-- They fit the same nodes. -/
  placed : ∀ load, Fit.accepts Fit.obstacle? p.unbound load ↔
    Fit.accepts Fit.obstacle? q.unbound load
  /-- The same pods fit beside them. -/
  beside : ∀ other node before after, Fit.accepts Fit.obstacle? other ⟨node, before ++ p :: after⟩ ↔
    Fit.accepts Fit.obstacle? other ⟨node, before ++ q :: after⟩
  /-- A node with one of them may be drained if it may be with the other. -/
  evicted : ∀ budgets before after, (Relocation.podsToMove (before ++ p :: after) budgets).isOk ↔
    (Relocation.podsToMove (before ++ q :: after) budgets).isOk

/-- **What an expression does where it stands.** It counts as false where labels have to meet it. A
group that must be far and a budget hold nobody back with it. Without it they also hold back whom
the rest of the selector does, and nobody else. -/
structure ExpressionManifest.Effects (e : ExpressionManifest) : Prop where
  /-- In a node affinity and in a group that must be near it is as good as false. -/
  required : ∀ {m m' : PodManifest} {pod pod'}, m.Changed (AffinityManifest.Falsified e) m' →
    m.toPod? = some pod → m'.toPod? = some pod' → pod'.TreatedAlike pod
  /-- With it, a term keeps nobody off. -/
  far_idle : ∀ {t rest : AffinityTermManifest} {owner node p},
    t.Changed (SelectorManifest.Without e) rest →
    ¬ t.KeepsOff owner node p
  /-- Taken out of a group that must be far, it keeps its pod off a node if the rest keeps off a pod
  there. -/
  far : ∀ {m m' : PodManifest} {rest pod pod' load},
    m.Changed (AffinityManifest.FarWithout e rest) m' →
    m.toPod? = some pod → m'.toPod? = some pod' →
    (Fit.accepts Fit.obstacle? pod'.unbound load ↔
      Fit.accepts Fit.obstacle? pod.unbound load ∧ ¬ ∃ p ∈ load.pods,
      rest.KeepsOff pod.ns load.node p)
  /-- Taken out of a group that must be far, it keeps another pod off the node of its own if the
  rest keeps it off. -/
  far_others : ∀ {m m' : PodManifest} {rest pod pod' other node before after},
    m.Changed (AffinityManifest.FarWithout e rest) m' → m.toPod? = some pod →
    m'.toPod? = some pod' →
    (Fit.accepts Fit.obstacle? other ⟨node, before ++ pod' :: after⟩ ↔
      Fit.accepts Fit.obstacle? other ⟨node, before ++ pod :: after⟩ ∧
        ¬ rest.KeepsOff pod.ns node other)
  /-- Taken out of a group that must be far, it changes no eviction. -/
  far_evicted : ∀ {m m' : PodManifest} {rest pod pod' budgets before after},
    m.Changed (AffinityManifest.FarWithout e rest) m' → m.toPod? = some pod →
    m'.toPod? = some pod' →
    ((Relocation.podsToMove (before ++ pod' :: after) budgets).isOk ↔
      (Relocation.podsToMove (before ++ pod :: after) budgets).isOk)
  /-- With it, a budget forbids nothing. -/
  budget_idle : ∀ {b b' : BudgetManifest} {p}, b.Without e b' → ¬ b.Forbids p
  /-- Taken out of a budget, it keeps the pods of a node there if the rest of the budget forbids to
  evict one of them. -/
  budget : ∀ before after {b b' : BudgetManifest} {budget budget' pods}, b.Without e b' →
    b.toBudget? = some budget → b'.toBudget? = some budget' →
    ((Relocation.podsToMove pods (before ++ budget' :: after)).isOk ↔
      (Relocation.podsToMove pods (before ++ budget :: after)).isOk ∧
        ¬ ∃ p ∈ pods, p.isRelocatable ∧ b'.Forbids p)

/-! ## Expressions that are false -/

section False

variable {e : ExpressionManifest} {labels : Labels}

/-- An expression that cannot be read is false. -/
theorem ExpressionManifest.Unknown.never (h : e.Unknown) : e.Never := by
  rintro labels ⟨operator, hoperator, -⟩
  rw [Unknown] at h
  rw [h] at hoperator
  cases hoperator

/-- Before and after an expression is replaced by a false one, a false one is there. -/
theorem ExpressionManifest.Falsified.exists_never {xs ys : List ExpressionManifest} (he : e.Never)
    (h : e.Falsified xs ys) : (∃ x ∈ xs, x.Never) ∧ ∃ y ∈ ys, y.Never := by
  obtain ⟨before, x, y, after, rfl, rfl, rfl, hy⟩ := h
  exact ⟨⟨x, by simp, he⟩, ⟨y, by simp, hy⟩⟩

/-- A selector with a false expression holds of no labels. -/
theorem SelectorManifest.not_holds_of_never {s : SelectorManifest}
    (h : ∃ e ∈ s.expressions, e.Never) :
    ¬ s.Holds labels := by
  intro hholds
  obtain ⟨e, he, hnever⟩ := h
  exact hnever labels (hholds.expressions e he)

/-- A selector from which a false expression is to be taken out holds of no labels. -/
theorem SelectorManifest.Without.not_holds {s s' : SelectorManifest} (he : e.Never)
    (h : s.Without e s') :
    ¬ s.Holds labels := by
  obtain ⟨before, after, hexpressions, -⟩ := h
  exact not_holds_of_never ⟨e, by simp [hexpressions], he⟩

/-- A node term with fields, or with a false expression, accepts no node. -/
theorem NodeTermManifest.accepts_toTerm_eq_false {t : NodeTermManifest}
    (h : t.fields ≠ [] ∨ ∃ e ∈ t.expressions, e.Never) : t.toTerm.accepts labels = false := by
  rw [toTerm]
  split
  · rename_i hfields
    obtain ⟨e, he, hnever⟩ := h.resolve_left fun hne => hne (List.isEmpty_iff.1 hfields)
    rw [NodeSelectorTerm.accepts, Bool.and_eq_false_iff]
    refine Or.inr (List.all_eq_false.2 ⟨_, List.mem_map_of_mem he, fun haccepts => ?_⟩)
    exact hnever labels (ExpressionManifest.accepts_toRequirement_iff.1 haccepts)
  · rfl

/-- Before and after an expression of a node term is replaced by a false one, the term accepts no
node. -/
theorem NodeTermManifest.Falsified.accepts_eq_false {t t' : NodeTermManifest} (he : e.Never)
    (h : t.Falsified e t') (labels : Labels) :
    t.toTerm.accepts labels = false ∧ t'.toTerm.accepts labels = false := by
  cases h with
  | label h =>
    obtain ⟨hbefore, hafter⟩ := h.exists_never he
    exact ⟨accepts_toTerm_eq_false (Or.inr hbefore), accepts_toTerm_eq_false (Or.inr hafter)⟩
  | field h =>
    obtain ⟨⟨x, hx, -⟩, ⟨y, hy, -⟩⟩ := h.exists_never he
    exact ⟨accepts_toTerm_eq_false (Or.inl (List.ne_nil_of_mem hx)),
      accepts_toTerm_eq_false (Or.inl (List.ne_nil_of_mem hy))⟩

end False

/-! ## Evictions -/

section Evictions

variable {p : Pod} {pods : List Pod}

/-- The labels of a pod that a budget forbids to evict meet the selector of the budget. -/
theorem BudgetManifest.Forbids.holds {b : BudgetManifest} (h : b.Forbids p) {s : SelectorManifest}
    (hs : b.selector = some s) : s.Holds p.labels := by
  obtain ⟨s', hs', hholds⟩ := h.selected
  rw [hs] at hs'
  cases hs'
  exact hholds

/-- A budget forbids to evict the pods it covers that may not be disrupted. -/
theorem BudgetManifest.not_forbids_iff {b : BudgetManifest} {budget : DisruptionBudget}
    (h : b.toBudget? = some budget) :
    ¬ b.Forbids p ↔ (budget.covers p → 1 ≤ budget.disruptionsAllowed) := by
  obtain ⟨name, -, s, hs, hbudget⟩ : ∃ name, b.metadata.name = some name ∧
      ∃ s, b.selector = some s ∧
      DisruptionBudget.mk b.metadata.namespaceOrDefault name s.toSelector
        (b.disruptionsAllowed.getD 0) = budget := by
    simpa [toBudget?, Option.bind_eq_some_iff] using h
  subst hbudget
  rw [DisruptionBudget.covers, Bool.and_eq_true, beq_iff_eq,
    SelectorManifest.accepts_toSelector_iff]
  constructor
  · rintro hallowed ⟨hscope, hholds⟩
    exact Int.not_lt.1 fun hexhausted => hallowed ⟨hscope, ⟨s, hs, hholds⟩, hexhausted⟩
  · intro hallowed hforbids
    exact Int.not_lt.2 (hallowed ⟨hforbids.inScope, hforbids.holds hs⟩) hforbids.exhausted

/-- **A budget in the place of one that forbids nothing** keeps the pods of a node there if it
forbids to evict one. -/
theorem Relocation.isOk_podsToMove_budget {b b' : BudgetManifest}
    {budget budget' : DisruptionBudget} {first last : List DisruptionBudget}
    (hb : b.toBudget? = some budget) (hb' : b'.toBudget? = some budget')
    (hidle : ∀ q, ¬ b.Forbids q) :
    (podsToMove pods (first ++ budget' :: last)).isOk ↔
      (podsToMove pods (first ++ budget :: last)).isOk ∧ ¬ ∃ q ∈ pods, q.isRelocatable ∧
        b'.Forbids q := by
  have hidle' (q : Pod) : budget.covers q → 1 ≤ budget.disruptionsAllowed :=
    (BudgetManifest.not_forbids_iff hb).1 (hidle q)
  have hpod (q : Pod) : q.Evictable (first ++ budget' :: last) ↔
      q.Evictable (first ++ budget :: last) ∧ ¬ b'.Forbids q := by
    rw [BudgetManifest.not_forbids_iff hb']
    constructor
    · rintro ⟨hmanaged, haffordable⟩
      simp only [List.forall_mem_append, List.forall_mem_cons] at haffordable
      refine ⟨⟨hmanaged, ?_⟩, haffordable.2.1⟩
      simp only [List.forall_mem_append, List.forall_mem_cons]
      exact ⟨haffordable.1, hidle' q, haffordable.2.2⟩
    · rintro ⟨⟨hmanaged, haffordable⟩, hallowed⟩
      refine ⟨hmanaged, ?_⟩
      simp only [List.forall_mem_append, List.forall_mem_cons] at haffordable ⊢
      exact ⟨haffordable.1, hallowed, haffordable.2.2⟩
  simp only [isOk_podsToMove_iff, hpod]
  constructor
  · intro hall
    exact ⟨fun q hq hmoves => (hall q hq hmoves).1, fun ⟨q, hq, hmoves, hforbids⟩ =>
      (hall q hq hmoves).2 hforbids⟩
  · rintro ⟨hall, hnone⟩ q hq hmoves
    exact ⟨hall q hq hmoves, fun hforbids => hnone ⟨q, hq, hmoves, hforbids⟩⟩

end Evictions

/-! ## The four places -/

section Places

variable {e : ExpressionManifest} {a a' : AffinityManifest} {rest : AffinityTermManifest}
  {owner : String} {p : Pod} {node : Node} {load : NodeLoad}

/-- Before and after an expression of a term is replaced by a false one, the term is granted
nowhere. -/
theorem AffinityTermManifest.Changed.not_grantedOn {t t' : AffinityTermManifest} (he : e.Never)
    (h : t.Changed (SelectorManifest.Falsified e) t') (owner : String) (load : NodeLoad) :
    (t.selector.isSome ∧ ¬ t.GrantedOn owner load) ∧ t'.selector.isSome ∧
      ¬ t'.GrantedOn owner load := by
  obtain ⟨s, s', hs, ⟨expressions, hexpressions, rfl⟩, rfl⟩ := h
  obtain ⟨hbefore, hafter⟩ := hexpressions.exists_never he
  refine ⟨⟨Option.isSome_of_eq_some hs, fun hgranted => ?_⟩, rfl, fun hgranted => ?_⟩
  · obtain ⟨q, -, hselects⟩ := hgranted.selected
    exact SelectorManifest.not_holds_of_never hbefore (hselects.holds hs)
  · obtain ⟨q, -, hselects⟩ := hgranted.selected
    exact SelectorManifest.not_holds_of_never hafter (hselects.holds rfl)

/-- Before and after an expression of a node term is replaced by a false one, the same nodes are
accepted. -/
theorem NodeAffinity.accepts_falsified {ts ts' : List NodeTermManifest} (he : e.Never)
    (h : ChangedOnce (NodeTermManifest.Falsified e) ts ts') (labels : Labels) :
    NodeAffinity.accepts ⟨ts.map (·.toTerm)⟩ labels =
      NodeAffinity.accepts ⟨ts'.map (·.toTerm)⟩ labels := by
  obtain ⟨before, t, t', after, rfl, rfl, hterm⟩ := h
  obtain ⟨hbefore, hafter⟩ := hterm.accepts_eq_false he labels
  have hne {xs ys : List NodeSelectorTerm} {x : NodeSelectorTerm} :
      (xs ++ x :: ys).isEmpty = false :=
    List.isEmpty_eq_false_iff.2 (by simp)
  simp [accepts, hne, hbefore, hafter]

/-- **A false expression in the place of another**: where labels have to meet the expression,
affinities with it are met where those with a false one are. -/
theorem AffinityManifest.Falsified.metOn_iff (he : e.Never) (h : a.Falsified e a') :
    a.MetOn owner load ↔ a'.MetOn owner load := by
  cases h with
  | node h =>
    have hnodes := NodeAffinity.accepts_falsified he h load.node.labels
    exact ⟨fun hmet => { hmet with nodes := hnodes ▸ hmet.nodes }, fun hmet =>
      { hmet with nodes := hnodes ▸ hmet.nodes }⟩
  | near h =>
    -- the term that is changed is not granted, whichever of the two it has
    obtain ⟨before, t, t', after, hbefore, rfl, hterm⟩ := h
    obtain ⟨⟨hsome, hnot⟩, hsome', hnot'⟩ := hterm.not_grantedOn he owner load
    exact ⟨fun hmet => absurd (hmet.near t (by simp [hbefore]) hsome) hnot,
      fun hmet => absurd (hmet.near t' (by simp) hsome') hnot'⟩

/-- An expression that is false where labels have to meet it is not one of the groups that must be
far. -/
theorem AffinityManifest.Falsified.far_eq (h : a.Falsified e a') : a'.far = a.far := by
  cases h <;> rfl

/-- A selector with a false expression selects nobody, so the term keeps nobody off. -/
theorem AffinityTermManifest.Changed.not_keepsOff {t : AffinityTermManifest} (he : e.Never)
    (h : t.Changed (SelectorManifest.Without e) rest) : ¬ t.KeepsOff owner node p := by
  obtain ⟨s, s', hs, hwithout, -⟩ := h
  intro hkeeps
  exact hwithout.not_holds he (hkeeps.selects.holds hs)

/-- **All groups that must be far, without an expression.** What holds of a term if it holds of the
rest, holds of all terms without the expression exactly if it does of all with it and of the
rest. -/
theorem AffinityManifest.FarWithout.forall_far_iff {P : AffinityTermManifest → Prop}
    (h : a.FarWithout e rest a')
    (hrest : ∀ t : AffinityTermManifest, t.Changed (SelectorManifest.Without e) rest →
      P rest → P t) :
    (∀ t ∈ a'.far, t.selector.isSome → P t) ↔ (∀ t ∈ a.far, t.selector.isSome → P t) ∧ P rest := by
  obtain ⟨before, t, after, hfar, ht, rfl⟩ := h
  have hsome : rest.selector.isSome := by
    obtain ⟨s, s', -, -, rfl⟩ := ht
    rfl
  simp only [hfar, List.forall_mem_append, List.forall_mem_cons]
  constructor
  · rintro ⟨hbefore, hP, hafter⟩
    exact ⟨⟨hbefore, fun _ => hrest t ht (hP hsome), hafter⟩, hP hsome⟩
  · rintro ⟨⟨hbefore, -, hafter⟩, hP⟩
    exact ⟨hbefore, fun _ => hP, hafter⟩

/-- **An expression taken out of a group that must be far**: the affinities are met where they were,
unless the rest keeps off a pod there. -/
theorem AffinityManifest.FarWithout.metOn_iff (he : e.Never) (h : a.FarWithout e rest a') :
    a'.MetOn owner load ↔ a.MetOn owner load ∧ ¬ ∃ q ∈ load.pods,
      rest.KeepsOff owner load.node q := by
  have hfar := h.forall_far_iff (P := fun t => ¬ ∃ q ∈ load.pods, t.KeepsOff owner load.node q)
    fun t ht _ ⟨q, _, hkeeps⟩ => ht.not_keepsOff he hkeeps
  -- the rest has the key of the term that it is left of
  have hkey : ∀ t : AffinityTermManifest, t.Changed (SelectorManifest.Without e) rest →
      t.topologyKey = rest.topologyKey := by
    rintro t ⟨s, s', -, -, rfl⟩
    rfl
  have hverifiable := h.forall_far_iff
    (P := fun t => load.node.inDomain t.topologyKey → t.topologyKey = hostnameLabel)
      fun t ht hP => by rwa [hkey t ht]
  obtain ⟨before, t, after, ht, ⟨s, s', hs, hs', rfl⟩, rfl⟩ := h
  constructor
  · intro hmet
    obtain ⟨hfar, hclear⟩ := hfar.1 hmet.far
    exact ⟨{ hmet with far := hfar, verifiable := (hverifiable.1 hmet.verifiable).1 }, hclear⟩
  · rintro ⟨hmet, hclear⟩
    have hlocal := hmet.verifiable t (by simp [ht]) (Option.isSome_of_eq_some hs)
    exact { hmet with
      far := hfar.2 ⟨hmet.far, hclear⟩, verifiable := hverifiable.2 ⟨hmet.verifiable, hlocal⟩ }

/-- A budget whose selector has a false expression forbids nothing. -/
theorem BudgetManifest.Without.not_forbids {b b' : BudgetManifest} (he : e.Never)
    (h : b.Without e b') :
    ¬ b.Forbids p := by
  obtain ⟨s, s', hs, hwithout, -⟩ := h
  intro hforbids
  exact hwithout.not_holds he (hforbids.holds hs)

end Places

/-- **What an expression that cannot be read does.** It is as good as false where labels have to
meet it, and where it narrows down whom to hold back, nobody is held back. -/
theorem ExpressionManifest.effects_of_unknown {e : ExpressionManifest} (he : e.Unknown) :
    e.Effects where
  required := by
    intro m m' pod pod' hchanged hpod hpod'
    obtain ⟨p, a, a', ha, rfl, rfl⟩ := hchanged.exists_withAffinities hpod hpod'
    refine ⟨fun load => ?_, fun other node before after => ?_, fun budgets before after => ?_⟩
    · have hmet : a'.MetOn p.ns load ↔ a.MetOn p.ns load ∧ True := by
        rw [and_true, ha.metOn_iff he.never]
      rw [Fit.accepts_withAffinities_iff hmet, and_true]
    · have hclear : (∀ t ∈ a'.far, t.selector.isSome → ¬ t.KeepsOff p.ns node other) ↔
          (∀ t ∈ a.far, t.selector.isSome → ¬ t.KeepsOff p.ns node other) ∧ True := by
        rw [and_true, ha.far_eq]
      rw [Fit.accepts_beside_iff hclear, and_true]
    · exact Relocation.isOk_podsToMove_withAffinities
  far_idle := fun h => h.not_keepsOff he.never
  far := by
    intro m m' rest pod pod' load hchanged hpod hpod'
    obtain ⟨p, a, a', ha, rfl, rfl⟩ := hchanged.exists_withAffinities hpod hpod'
    exact Fit.accepts_withAffinities_iff (ha.metOn_iff he.never)
  far_others := by
    intro m m' rest pod pod' other node before after hchanged hpod hpod'
    obtain ⟨p, a, a', ha, rfl, rfl⟩ := hchanged.exists_withAffinities hpod hpod'
    have hclear := ha.forall_far_iff (P := fun t => ¬ t.KeepsOff p.ns node other)
      fun t ht _ => ht.not_keepsOff he.never
    exact Fit.accepts_beside_iff hclear
  far_evicted := by
    intro m m' rest pod pod' budgets before after hchanged hpod hpod'
    obtain ⟨p, a, a', -, rfl, rfl⟩ := hchanged.exists_withAffinities hpod hpod'
    exact Relocation.isOk_podsToMove_withAffinities
  budget_idle := fun h => h.not_forbids he.never
  budget := by
    intro before after b b' budget budget' pods hb hbudget hbudget'
    exact Relocation.isOk_podsToMove_budget hbudget hbudget' fun q => hb.not_forbids he.never

/-- An expression with an operator that no selector knows. -/
def appMatches : ExpressionManifest where
  key := "app"
  operator := "Matches"

/-- An expression that asks for a label with one of no values. -/
def appOfNone : ExpressionManifest where
  key := "app"
  operator := "In"

/-- A term for the web servers of the host that meet some expressions. -/
def hostWeb (expressions : List ExpressionManifest) : AffinityTermManifest where
  selector := some { labels := .ofList [("app", "web")], expressions }
  topologyKey := hostnameLabel

/-- A replica of a web server with some affinities. -/
def webReplica (affinity : AffinityManifest) : PodManifest where
  metadata := { name := some "web", labels := .ofList [("app", "web")],
                owners := [{ kind := "ReplicaSet", name := "web", controller := some true }] }
  spec := some { affinity }

/-- A budget that keeps all web servers that meet some expressions. -/
def keepWeb (expressions : List ExpressionManifest) : BudgetManifest where
  metadata := { name := some "web" }
  selector := some { labels := .ofList [("app", "web")], expressions }
  disruptionsAllowed := some 0

/-- No label is one of no values. -/
theorem appOfNone_never : appOfNone.Never := by
  rintro labels ⟨operator, hoperator, haccepts⟩
  cases hoperator
  cases hlabel : labels.get? "app" <;> simp [Requirement.accepts, appOfNone, hlabel] at haccepts

/-- The expression is replaced in a group that must be near. -/
theorem changed_webReplica_near :
    (webReplica { near := [hostWeb [appMatches]] }).Changed (AffinityManifest.Falsified appMatches)
      (webReplica { near := [hostWeb [appOfNone]] }) :=
  ⟨_, _, rfl, .near ⟨[], _, _, [], rfl, rfl, _, _, rfl,
    ⟨_, ⟨[], _, _, [], rfl, rfl, rfl, appOfNone_never⟩, rfl⟩, rfl⟩, rfl⟩

/-- The expression is taken out of a group that must be far. -/
theorem changed_webReplica_far :
    (webReplica { far := [hostWeb [appMatches]] }).Changed
      (AffinityManifest.FarWithout appMatches (hostWeb []))
      (webReplica { far := [hostWeb []] }) :=
  ⟨_, _, rfl, ⟨[], _, [], rfl, ⟨_, _, rfl, ⟨[], [], rfl, rfl⟩, rfl⟩, rfl⟩, rfl⟩

/-- The expression is taken out of a budget. -/
theorem without_keepWeb : (keepWeb [appMatches]).Without appMatches (keepWeb []) :=
  ⟨_, _, rfl, ⟨[], [], rfl, rfl⟩, rfl⟩

/-- A web server shows it in a group that must be near, in one that must be far and in a budget. -/
theorem effects_of_unknown_web :
    appMatches.Unknown ∧
      (∃ pod pod', (webReplica { near := [hostWeb [appMatches]] }).toPod? = some pod ∧
        (webReplica { near := [hostWeb [appOfNone]] }).toPod? = some pod' ∧ pod'.TreatedAlike pod) ∧
      (∃ pod pod', (webReplica { far := [hostWeb [appMatches]] }).toPod? = some pod ∧
        (webReplica { far := [hostWeb []] }).toPod? = some pod' ∧
        (Fit.accepts Fit.obstacle? pod'.unbound webHost ↔
          Fit.accepts Fit.obstacle? pod.unbound webHost ∧
          ¬ ∃ p ∈ webHost.pods, (hostWeb []).KeepsOff pod.ns webHost.node p)) ∧
      ∃ pod budget budget', (webReplica {}).toPod? = some pod ∧
        (keepWeb [appMatches]).toBudget? = some budget ∧
        (keepWeb []).toBudget? = some budget' ∧
        ((Relocation.podsToMove [pod] [budget']).isOk ↔
          (Relocation.podsToMove [pod] [budget]).isOk ∧
          ¬ ∃ p ∈ [pod], p.isRelocatable ∧ (keepWeb []).Forbids p) := by
  have hunknown : appMatches.Unknown := rfl
  have heffects := ExpressionManifest.effects_of_unknown hunknown
  refine ⟨hunknown, ⟨_, _, rfl, rfl, ?_⟩, ⟨_, _, rfl, rfl, ?_⟩, _, _, _, rfl, rfl, rfl, ?_⟩
  · exact heffects.required changed_webReplica_near rfl rfl
  · exact heffects.far changed_webReplica_far rfl rfl
  · exact heffects.budget [] [] without_keepWeb rfl rfl

/-- **An expression that cannot be read lifts what the rest would impose.** A web server that is to
be far from web servers fits beside one, and one that a budget keeps may be evicted. Without the
expression neither is so. -/
theorem not_safe_matches :
    appMatches.Unknown ∧
      (∃ pod pod', (webReplica { far := [hostWeb [appMatches]] }).toPod? = some pod ∧
        (webReplica { far := [hostWeb []] }).toPod? = some pod' ∧
        (webReplica { far := [hostWeb [appMatches]] }).Changed
          (AffinityManifest.FarWithout appMatches (hostWeb []))
          (webReplica { far := [hostWeb []] }) ∧
        Fit.accepts Fit.obstacle? pod.unbound webHost ∧
          ¬ Fit.accepts Fit.obstacle? pod'.unbound webHost) ∧
      ∃ pod budget budget', (webReplica {}).toPod? = some pod ∧
        (keepWeb [appMatches]).toBudget? = some budget ∧
        (keepWeb []).toBudget? = some budget' ∧
        (keepWeb [appMatches]).Without appMatches (keepWeb []) ∧
        Relocation.podsToMove [pod] [budget] = .ok [pod] ∧
        Relocation.podsToMove [pod] [budget'] =
          .error (.budgetExhausted "default/web" "default/web") := by
  refine ⟨rfl, ⟨_, _, rfl, rfl, changed_webReplica_far, ?_, ?_⟩, _, _, _, rfl, rfl, rfl,
    without_keepWeb, ?_, ?_⟩
  · decide +kernel
  · decide +kernel
  · decide +kernel
  · decide +kernel

end SpotRebalance
