import SpotRebalance.Proofs.Rebalancer.Course

/-! # What a cycle asks of its environment

`Environment.noted` keeps a **journal** of what it is asked and what it answers. A cycle goes in it
as it goes in the plain environment, and adds the same entries whatever the journal held before
(`runAt_noted`). So the journal of a cycle is well defined (`Rebalancer.calls`), and a statement on
what is asked, or in which order, is a statement on lists.

What journals look like is the subject of the accounts of cycles. -/

namespace SpotRebalance

universe u

variable {σ : Type u} {α β ε : Type}

/-- Something that an environment was asked, and its answer. -/
inductive Call where
  /-- The nodes were listed. -/
  | nodes (answer : Except RebalanceError (List Node))
  /-- The pods were listed. -/
  | pods (answer : Except RebalanceError (List Pod))
  /-- The disruption budgets were listed. -/
  | budgets (answer : Except RebalanceError (List DisruptionBudget))
  /-- The pods that the scheduler cannot place were listed. -/
  | unschedulablePods (answer : Except RebalanceError (List Pod))
  /-- A drain was ordered, and took some time. -/
  | drain (order : DrainOrder) (answer : Except RebalanceError Unit) (took : Duration)

namespace Call

/-- The order, if a drain was ordered. -/
def order? : Call → Option DrainOrder
  | drain order .. => some order
  | nodes _ | pods _ | budgets _ | unschedulablePods _ => none

/-- How long the drain took, if one was ordered. -/
def drainTime? : Call → Option Duration
  | drain _ _ took => some took
  | nodes _ | pods _ | budgets _ | unschedulablePods _ => none

/-- The orders in a journal. -/
def orders (calls : List Call) : List DrainOrder := calls.filterMap order?

/-- How long the drain in a journal took; no time if there was none. -/
def drainTime (calls : List Call) : Duration := (calls.findSome? drainTime?).getD ⟨0⟩

/-- The listings that come before an attempt at a drain. -/
def listings (nodes : List Node) (pods : List Pod) (budgets : List DisruptionBudget) : List Call :=
  [.unschedulablePods (.ok []), .nodes (.ok nodes), .pods (.ok pods), .budgets (.ok budgets)]

@[simp] theorem orders_unschedulablePods_cons (waiting : Except RebalanceError (List Pod))
    (calls : List Call) :
    orders (.unschedulablePods waiting :: calls) = orders calls := rfl

@[simp] theorem orders_listings (nodes : List Node) (pods : List Pod)
    (budgets : List DisruptionBudget) :
    orders (listings nodes pods budgets) = [] := rfl

@[simp] theorem orders_listings_drain (nodes : List Node) (pods : List Pod)
    (budgets : List DisruptionBudget) (order : DrainOrder) (answer : Except RebalanceError Unit)
    (took : Duration) :
    orders (listings nodes pods budgets ++ [.drain order answer took]) = [order] := rfl

@[simp] theorem drainTime_listings (nodes : List Node) (pods : List Pod)
    (budgets : List DisruptionBudget) :
    drainTime (listings nodes pods budgets) = ⟨0⟩ := rfl

@[simp] theorem drainTime_listings_drain (nodes : List Node) (pods : List Pod)
    (budgets : List DisruptionBudget) (order : DrainOrder) (answer : Except RebalanceError Unit)
    (took : Duration) :
    drainTime (listings nodes pods budgets ++ [.drain order answer took]) = took := rfl

end Call

/-! ## Keeping a journal -/

/-- The exchange with an entry in the journal. -/
def Exchange.noted (x : Exchange σ α) (entry : Reply σ α → Call) :
    Exchange (σ × List Call) α := fun s =>
  let reply := x s.1
  ⟨reply.answer, reply.took, (reply.state, s.2 ++ [entry reply])⟩

/-- The environment with a journal of what it is asked. -/
def Environment.noted (env : Environment σ) : Environment (σ × List Call) where
  nodes := env.nodes.noted fun reply => .nodes reply.answer
  pods := env.pods.noted fun reply => .pods reply.answer
  budgets := env.budgets.noted fun reply => .budgets reply.answer
  unschedulablePods := env.unschedulablePods.noted fun reply => .unschedulablePods reply.answer
  drain := fun order => (env.drain order).noted fun reply => .drain order reply.answer reply.took

namespace Environment

variable (env : Environment σ)

@[simp] theorem nodes_noted :
    env.noted.nodes = env.nodes.noted fun reply => .nodes reply.answer := rfl

@[simp] theorem pods_noted : env.noted.pods = env.pods.noted fun reply => .pods reply.answer := rfl

@[simp] theorem budgets_noted :
    env.noted.budgets = env.budgets.noted fun reply => .budgets reply.answer := rfl

@[simp] theorem unschedulablePods_noted :
    env.noted.unschedulablePods = env.unschedulablePods.noted fun reply =>
      .unschedulablePods reply.answer := rfl

@[simp] theorem drain_noted (order : DrainOrder) :
    env.noted.drain order = (env.drain order).noted fun reply =>
      .drain order reply.answer reply.took := rfl

end Environment

/-- An exchange of which a journal is kept goes as without one and adds its entry. -/
theorem Exchange.noted_eq {x : Exchange σ α} {entry : Reply σ α → Call} {s s' : σ × List Call}
    {answer : α} {took : Duration} (h : x.noted entry s = ⟨answer, took, s'⟩) :
    x s.1 = ⟨answer, took, s'.1⟩ ∧ s'.2 = s.2 ++ [entry ⟨answer, took, s'.1⟩] := by
  obtain ⟨rfl, rfl, rfl⟩ := Reply.mk.inj h
  exact ⟨rfl, rfl⟩

/-- **One exchange keeps the journal of another**: it goes like the other, and what it adds to the
journal does not depend on what the journal held. -/
def Exchange.Journals (y : Exchange (σ × List Call) α) (x : Exchange σ α) : Prop :=
  ∀ s, ∃ calls, ∀ earlier, y (s, earlier) =
    ⟨(x s).answer, (x s).took, ((x s).state, earlier ++ calls)⟩

namespace Exchange

variable {x : Exchange σ α} {y : Exchange (σ × List Call) α}

theorem journals_noted (x : Exchange σ α) (entry : Reply σ α → Call) : (x.noted entry).Journals x :=
  fun s => ⟨[entry (x s)], fun _ => rfl⟩

theorem journals_done (answer : α) :
    (done answer : Exchange (σ × List Call) α).Journals (done answer) :=
  fun s => ⟨[], fun earlier => by rw [List.append_nil]; rfl⟩

theorem Journals.map (h : y.Journals x) (f : α → β) : (y.map f).Journals (x.map f) := by
  intro s
  obtain ⟨calls, hcalls⟩ := h s
  exact ⟨calls, fun earlier => map_eq (hcalls earlier)⟩

/-- Two exchanges one after the other add the entries of the first and then those of the second. -/
theorem Journals.bind {f : α → Exchange σ β} {g : α → Exchange (σ × List Call) β} (h : y.Journals x)
    (hnext : ∀ a, (g a).Journals (f a)) : (y.bind g).Journals (x.bind f) := by
  intro s
  obtain ⟨first, hfirst⟩ := h s
  obtain ⟨second, hsecond⟩ := hnext (x s).answer (x s).state
  -- the second exchange finds the entries of the first in the journal, which change nothing for it
  refine ⟨first ++ second, fun earlier => ?_⟩
  rw [bind_eq (hfirst earlier), hsecond (earlier ++ first), List.append_assoc]
  rfl

theorem Journals.andThen {x : Exchange σ (Except ε α)} {y : Exchange (σ × List Call) (Except ε α)}
    {f : α → Exchange σ (Except ε β)} {g : α → Exchange (σ × List Call) (Except ε β)}
    (h : y.Journals x) (hnext : ∀ a, (g a).Journals (f a)) :
    (y.andThen g).Journals (x.andThen f) := by
  refine h.bind fun answer => ?_
  cases answer with
  | error e => exact journals_done _
  | ok a => exact hnext a

end Exchange

theorem Environment.journals_survey (env : Environment σ) (labels : RoleLabels) :
    (env.noted.survey labels).Journals (env.survey labels) := by
  refine (Exchange.journals_noted _ _).andThen fun nodes => ?_
  refine (Exchange.journals_noted _ _).andThen fun pods => ?_
  exact (Exchange.journals_noted _ _).map _

namespace Rebalancer

variable (r : Rebalancer) (env : Environment σ) (now : Instant)

theorem journals_measureOnly (outcome : Outcome) :
    (r.measureOnly env.noted outcome).Journals (r.measureOnly env outcome) :=
  (env.journals_survey _).map _

theorem journals_drain (shown : List Measurement) (node : Node) (pods : List Pod) :
    (r.drain env.noted now shown node pods).Journals (r.drain env now shown node pods) := by
  intro s
  cases hdry : r.config.dryRun with
  | true => exact ⟨[], fun earlier => by simp [drain_of_dryRun hdry]⟩
  | false =>
    rcases hdrain : env.drain (r.order node pods) s with ⟨answer, took, s'⟩
    refine ⟨[.drain (r.order node pods) answer took], fun earlier => ?_⟩
    simp only [drain, hdry, Environment.drain_noted, Exchange.noted, hdrain,
      Bool.false_eq_true, if_false]
    cases answer <;> rfl

theorem journals_rebalance : (r.rebalance env.noted now).Journals (r.rebalance env now) := by
  refine (env.journals_survey _).bind fun answer => ?_
  cases answer with
  | error e => exact Exchange.journals_done _
  | ok survey =>
    simp only
    rcases survey.snapshot.onDemand with _ | ⟨load, loads⟩
    · exact Exchange.journals_done _
    · rcases survey.firstDrainable? r.policy with _ | ⟨node, pods⟩
      · exact Exchange.journals_done _
      · exact r.journals_drain env now _ node pods

theorem journals_cycle : (r.cycle env.noted now).Journals (r.cycle env now) := by
  rw [cycle, cycle, Environment.unschedulablePods_noted]
  cases r.coolingUntil? now with
  | some next => exact r.journals_measureOnly env _
  | none =>
    refine (Exchange.journals_noted _ _).bind fun answer => ?_
    rcases answer with e | _ | ⟨pod, pods⟩
    · exact Exchange.journals_done _
    · exact r.journals_rebalance env now
    · exact r.journals_measureOnly env _

theorem journals_runAt : (r.runAt env.noted now).Journals (r.runAt env now) := by
  intro s
  obtain ⟨calls, hcalls⟩ := r.journals_cycle env now s
  exact ⟨calls, fun earlier => by rw [runAt, hcalls earlier]; rfl⟩

/-- **The journal of a cycle**: what it asks of its environment, in order, with the answers. -/
def calls (s : σ) : List Call := (r.runAt env.noted now (s, [])).state.2

/-- **Keeping a journal changes nothing else**, and every cycle adds its own journal. -/
theorem runAt_noted (s : σ) (earlier : List Call) :
    r.runAt env.noted now (s, earlier) =
      ⟨(r.runAt env now s).answer, (r.runAt env now s).took,
        ((r.runAt env now s).state, earlier ++ r.calls env now s)⟩ := by
  obtain ⟨calls, hcalls⟩ := r.journals_runAt env now s
  rw [Rebalancer.calls, hcalls, hcalls, List.nil_append]

/-- A cycle whose journal starts empty goes as without one and leaves its own journal. -/
theorem cycle_noted (s : σ) :
    r.cycle env.noted now (s, []) =
      ⟨(r.cycle env now s).answer, (r.cycle env now s).took,
        ((r.cycle env now s).state, r.calls env now s)⟩ := by
  obtain ⟨calls, hcalls⟩ := r.journals_cycle env now s
  have hjournal : r.calls env now s = (r.cycle env.noted now (s, [])).state.2 := rfl
  rw [hjournal, hcalls]

end Rebalancer

end SpotRebalance
