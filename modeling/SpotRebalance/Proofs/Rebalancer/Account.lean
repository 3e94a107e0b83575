import SpotRebalance.Proofs.Rebalancer.Journal

/-! # Accounts of cycles

What a cycle asks of its environment, what it is answered, and what it comes to belong together. A
survey asks for nodes, pods and budgets, and ends with the first listing that fails (`Surveyed`). A
cycle either ends at a gate, or at a listing that fails, or has a complete survey, and then drains
the first drainable node, names it, or finds none. `Account` lists these cases with the whole
journal and the whole effect of each.

Every cycle has an account (`account_cycle`). What holds of the journals and effects of all cycles
is proved by cases on it. Where only drains matter there are three kinds of journals (`Transcript`):
a cycle that attempts no drain only lists; one that attempts a drain has listed the pods that the
scheduler cannot place, and found none, and then nodes, pods and budgets; a dry run ends there, and
any other cycle orders one drain. -/

namespace SpotRebalance

universe u

variable {σ : Type u}

/-! ## Surveys -/

/-- **What a survey asks**, and what comes of it. -/
inductive Surveyed (labels : RoleLabels) : List Call → Except RebalanceError Survey → Prop where
  /-- The nodes cannot be listed. -/
  | nodesFailed (e : RebalanceError) : Surveyed labels [.nodes (.error e)] (.error e)
  /-- The pods cannot be listed. -/
  | podsFailed (nodes : List Node) (e : RebalanceError) :
      Surveyed labels [.nodes (.ok nodes), .pods (.error e)] (.error e)
  /-- The budgets cannot be listed. -/
  | budgetsFailed (nodes : List Node) (pods : List Pod) (e : RebalanceError) :
      Surveyed labels [.nodes (.ok nodes), .pods (.ok pods), .budgets (.error e)] (.error e)
  /-- Every listing succeeds. -/
  | complete (nodes : List Node) (pods : List Pod) (budgets : List DisruptionBudget) :
      Surveyed labels [.nodes (.ok nodes), .pods (.ok pods), .budgets (.ok budgets)]
        (.ok ⟨.ofListing labels nodes pods, budgets⟩)

/-- **A survey lists nodes, pods and budgets**, in that order, up to the first failure. -/
theorem Environment.surveyed_noted {env : Environment σ} {labels : RoleLabels}
    {s s' : σ × List Call} {answer : Except RebalanceError Survey} {took : Duration}
    (h : env.noted.survey labels s = ⟨answer, took, s'⟩) :
    ∃ calls, s'.2 = s.2 ++ calls ∧ Surveyed labels calls answer := by
  rw [Environment.survey, nodes_noted, pods_noted, budgets_noted] at h
  rcases hnodes : env.nodes.noted (fun reply => Call.nodes reply.answer) s
    with ⟨e | nodes, took₁, s₁⟩
  · rw [Exchange.andThen_error hnodes] at h
    cases h
    exact ⟨_, (Exchange.noted_eq hnodes).2, .nodesFailed e⟩
  rw [Exchange.andThen_ok hnodes] at h
  have hnodes₁ := (Exchange.noted_eq hnodes).2
  rcases hpods : env.pods.noted (fun reply => Call.pods reply.answer) s₁ with ⟨e | pods, took₂, s₂⟩
  · rw [Exchange.andThen_error hpods] at h
    cases h
    have hpods₂ := (Exchange.noted_eq hpods).2
    rw [hnodes₁, List.append_assoc] at hpods₂
    exact ⟨_, hpods₂, .podsFailed nodes e⟩
  rw [Exchange.andThen_ok hpods] at h
  have hpods₂ := (Exchange.noted_eq hpods).2
  rcases hbudgets : env.budgets.noted (fun reply => Call.budgets reply.answer) s₂
    with ⟨budgets?, took₃, s₃⟩
  rw [Exchange.map_eq hbudgets] at h
  have hbudgets₃ := (Exchange.noted_eq hbudgets).2
  rw [hpods₂, hnodes₁, List.append_assoc, List.append_assoc] at hbudgets₃
  cases h
  refine ⟨_, hbudgets₃, ?_⟩
  cases budgets? with
  | error e => exact .budgetsFailed nodes pods e
  | ok budgets => exact .complete nodes pods budgets

/-- A survey orders no drains. -/
theorem Surveyed.orders_eq_nil {labels : RoleLabels} {calls : List Call}
    {answer : Except RebalanceError Survey} (h : Surveyed labels calls answer) :
    Call.orders calls = [] := by
  cases h <;> rfl

/-- What is measured of a survey; nothing if it failed. -/
def Survey.shown (filter : RelocationFilter) : Except RebalanceError Survey → List Measurement
  | .ok survey => survey.measurements filter
  | .error _ => []

/-! ## Complete surveys -/

/-- **A journal holds a complete survey.** -/
structure Call.Surveys (calls : List Call) (nodes : List Node) (pods : List Pod)
    (budgets : List DisruptionBudget) : Prop where
  /-- The nodes were listed. -/
  nodes : .nodes (.ok nodes) ∈ calls
  /-- The pods were listed. -/
  pods : .pods (.ok pods) ∈ calls
  /-- The budgets were listed. -/
  budgets : .budgets (.ok budgets) ∈ calls

/-- A journal holds no complete survey. -/
def Call.Unsurveyed (calls : List Call) : Prop :=
  ∀ nodes pods budgets, ¬ Surveys calls nodes pods budgets

section Surveys

variable {labels : RoleLabels} {calls : List Call} {answer : Except RebalanceError Survey}
  {nodes : List Node} {pods : List Pod} {budgets : List DisruptionBudget}

/-- Three listings hold the survey of what they showed. -/
theorem Call.surveys_complete_iff {nodes' : List Node} {pods' : List Pod}
    {budgets' : List DisruptionBudget} :
    Surveys [.nodes (.ok nodes'), .pods (.ok pods'), .budgets (.ok budgets')] nodes pods budgets ↔
      nodes = nodes' ∧ pods = pods' ∧ budgets = budgets' := by
  constructor
  · rintro ⟨hnodes, hpods, hbudgets⟩
    simp only [List.mem_cons, List.not_mem_nil, Call.nodes.injEq, Call.pods.injEq,
      Call.budgets.injEq, Except.ok.injEq, reduceCtorEq, or_false,
      false_or] at hnodes hpods hbudgets
    exact ⟨hnodes, hpods, hbudgets⟩
  · rintro ⟨rfl, rfl, rfl⟩
    exact ⟨by simp, by simp, by simp⟩

/-- A complete survey is what the survey came to. -/
theorem Surveyed.answer_eq (h : Surveyed labels calls answer)
    (hsurvey : Call.Surveys calls nodes pods budgets) :
    answer = .ok ⟨.ofListing labels nodes pods, budgets⟩ := by
  cases h with
  | nodesFailed | podsFailed | budgetsFailed => exact absurd hsurvey.budgets (by simp)
  | complete =>
    obtain ⟨rfl, rfl, rfl⟩ := Call.surveys_complete_iff.1 hsurvey
    rfl

/-- A survey that succeeds is complete. -/
theorem Surveyed.surveys {survey : Survey} (h : Surveyed labels calls (.ok survey)) :
    ∃ nodes pods budgets, Call.Surveys calls nodes pods budgets := by
  cases h with
  | complete nodes pods budgets =>
    exact ⟨nodes, pods, budgets, Call.surveys_complete_iff.2 ⟨rfl, rfl, rfl⟩⟩

/-- What is asked first about pods that wait is no part of a survey. -/
theorem Call.surveys_cons_iff {waiting : Except RebalanceError (List Pod)} :
    Surveys (.unschedulablePods waiting :: calls) nodes pods budgets ↔
      Surveys calls nodes pods budgets := by
  constructor
  · rintro ⟨hnodes, hpods, hbudgets⟩
    exact ⟨by simpa using hnodes, by simpa using hpods, by simpa using hbudgets⟩
  · rintro ⟨hnodes, hpods, hbudgets⟩
    exact ⟨.tail _ hnodes, .tail _ hpods, .tail _ hbudgets⟩

/-- The listings of a cycle hold the survey of what they showed. -/
theorem Call.surveys_listings_iff {nodes' : List Node} {pods' : List Pod}
    {budgets' : List DisruptionBudget} :
    Surveys (listings nodes' pods' budgets') nodes pods budgets ↔
      nodes = nodes' ∧ pods = pods' ∧ budgets = budgets' :=
  surveys_cons_iff.trans surveys_complete_iff

/-- An order to drain is no part of a survey. -/
theorem Call.surveys_append_drain_iff {order : DrainOrder} {answer : Except RebalanceError Unit}
    {took : Duration} :
    Surveys (calls ++ [.drain order answer took]) nodes pods budgets ↔
      Surveys calls nodes pods budgets := by
  constructor
  · rintro ⟨hnodes, hpods, hbudgets⟩
    exact ⟨by simpa using hnodes, by simpa using hpods, by simpa using hbudgets⟩
  · rintro ⟨hnodes, hpods, hbudgets⟩
    exact ⟨List.mem_append_left _ hnodes, List.mem_append_left _ hpods,
      List.mem_append_left _ hbudgets⟩

end Surveys

/-! ## Cycles -/

/-- The outcome of a cycle that finds no node to drain among a number of on-demand nodes. -/
def Outcome.ofNothing (considered : Nat) : Outcome :=
  if considered = 0 then .noOnDemandNodes else .nothingDrainable considered

/-- Such a cycle attempts no drain. -/
@[simp] theorem Outcome.attemptsDrain_ofNothing (considered : Nat) :
    (Outcome.ofNothing considered).attemptsDrain = false := by
  rw [ofNothing]
  split <;> rfl

namespace Rebalancer

/-- **What a cycle asks**, what it is answered, and what it comes to. -/
inductive Account (r : Rebalancer) (now : Instant) : List Call → CycleEffect → Prop where
  /-- The cooldown lasts, and the cycle only measures. -/
  | cooling {next : Instant} {calls : List Call} {answer : Except RebalanceError Survey}
      (hcooling : r.coolingUntil? now = some next)
      (hsurvey : Surveyed r.config.roleLabels calls answer) :
      Account r now calls ⟨.ok (.coolingDown next), Survey.shown r.policy.filter answer,
        r.nextDrainAt⟩
  /-- It is not known whether the scheduler can place every pod. -/
  | unlisted {e : RebalanceError} (hready : r.coolingUntil? now = none) :
      Account r now [.unschedulablePods (.error e)] ⟨.error e, [], r.nextDrainAt⟩
  /-- There are pods that the scheduler cannot place, and the cycle only measures. -/
  | waiting {pods : List Pod} {calls : List Call} {answer : Except RebalanceError Survey}
      (hready : r.coolingUntil? now = none) (hpods : pods ≠ [])
      (hsurvey : Surveyed r.config.roleLabels calls answer) :
      Account r now (.unschedulablePods (.ok pods) :: calls)
        ⟨.ok (.unschedulablePods pods.length), Survey.shown r.policy.filter answer, r.nextDrainAt⟩
  /-- The survey fails. -/
  | unsurveyed {calls : List Call} {e : RebalanceError} (hready : r.coolingUntil? now = none)
      (hsurvey : Surveyed r.config.roleLabels calls (.error e)) :
      Account r now (.unschedulablePods (.ok []) :: calls) ⟨.error e, [], r.nextDrainAt⟩
  /-- There is no node to drain. -/
  | idle {nodes : List Node} {pods : List Pod} {budgets : List DisruptionBudget} {survey : Survey}
      (hready : r.coolingUntil? now = none) (hsurvey : survey =
        ⟨.ofListing r.config.roleLabels nodes pods, budgets⟩)
      (hfirst : survey.firstDrainable? r.policy = none) :
      Account r now (Call.listings nodes pods budgets)
        ⟨.ok (.ofNothing survey.snapshot.onDemand.length), survey.measurements r.policy.filter,
          r.nextDrainAt⟩
  /-- A dry run names the first drainable node. -/
  | named {nodes : List Node} {pods : List Pod} {budgets : List DisruptionBudget} {survey : Survey}
      {node : Node} {moved : List Pod} (hready : r.coolingUntil? now = none)
      (hsurvey : survey = ⟨.ofListing r.config.roleLabels nodes pods, budgets⟩)
      (hfirst : survey.firstDrainable? r.policy = some (node, moved))
      (hdry : r.config.dryRun = true) :
      Account r now (Call.listings nodes pods budgets)
        ⟨.ok (.dryRun node.name moved.length), survey.measurements r.policy.filter,
          some (r.cooldownEnd now ⟨0⟩)⟩
  /-- The drain of the first drainable node is ordered. -/
  | ordered {nodes : List Node} {pods : List Pod} {budgets : List DisruptionBudget}
      {survey : Survey} {node : Node} {moved : List Pod} {answer : Except RebalanceError Unit}
      {took : Duration} (hready : r.coolingUntil? now = none)
      (hsurvey : survey = ⟨.ofListing r.config.roleLabels nodes pods, budgets⟩)
      (hfirst : survey.firstDrainable? r.policy = some (node, moved))
      (hdry : r.config.dryRun = false) :
      Account r now (Call.listings nodes pods budgets ++ [.drain (r.order node moved) answer took])
        ⟨.ok (.ofDrain node.name moved.length answer),
          survey.measurements r.policy.filter ++ [.drained (.ofAnswer answer) node.name],
          some (r.cooldownEnd now took)⟩

variable {r : Rebalancer} {env : Environment σ} {now : Instant}

/-- A cycle that only measures asks what a survey asks, and shows what it shows. -/
theorem measureOnly_surveyed (r : Rebalancer) (env : Environment σ) (outcome : Outcome)
    (s : σ × List Call) :
    ∃ calls answer, Surveyed r.config.roleLabels calls answer ∧
      (r.measureOnly env.noted outcome s).state.2 = s.2 ++ calls ∧
      (r.measureOnly env.noted outcome s).answer =
        ⟨.ok outcome, Survey.shown r.policy.filter answer, r.nextDrainAt⟩ := by
  rcases hsurvey : env.noted.survey r.config.roleLabels s with ⟨answer, took, s'⟩
  obtain ⟨calls, hcalls, hsurveyed⟩ := Environment.surveyed_noted hsurvey
  refine ⟨calls, answer, hsurveyed, ?_⟩
  rw [measureOnly, Exchange.map_eq hsurvey]
  cases answer with
  | error e => exact ⟨hcalls, rfl⟩
  | ok survey => exact ⟨hcalls, rfl⟩

/-- After both gates a cycle has asked for the pods that the scheduler cannot place, and then
surveys. -/
theorem PassesGates.surveyed {s : σ} {s₁ s₂ : σ × List Call} {labels : RoleLabels}
    {wait took : Duration} {answer : Except RebalanceError Survey}
    (hgates : PassesGates r env.noted now (s, []) wait s₁)
    (hsurvey : env.noted.survey labels s₁ = ⟨answer, took, s₂⟩) :
    ∃ calls, s₂.2 = .unschedulablePods (.ok []) :: calls ∧ Surveyed labels calls answer := by
  have hplaced := hgates.placed
  rw [Environment.unschedulablePods_noted] at hplaced
  have hlisted : s₁.2 = [.unschedulablePods (.ok [])] := (Exchange.noted_eq hplaced).2
  obtain ⟨calls, hcalls, hsurveyed⟩ := Environment.surveyed_noted hsurvey
  exact ⟨calls, by rw [hcalls, hlisted, List.singleton_append], hsurveyed⟩

/-- A complete survey after both gates leaves the listings of a cycle in the journal. -/
theorem PassesGates.complete {s : σ} {s₁ s₂ : σ × List Call} {labels : RoleLabels}
    {wait took : Duration} {survey : Survey} (hgates : PassesGates r env.noted now (s, []) wait s₁)
    (hsurvey : env.noted.survey labels s₁ = ⟨.ok survey, took, s₂⟩) :
    ∃ nodes pods budgets, s₂.2 = Call.listings nodes pods budgets ∧
      survey = ⟨.ofListing labels nodes pods, budgets⟩ := by
  obtain ⟨calls, hcalls, hsurveyed⟩ := hgates.surveyed hsurvey
  cases hsurveyed with
  | complete nodes pods budgets => exact ⟨nodes, pods, budgets, hcalls, rfl⟩

/-- The course of a cycle in the environment with a journal gives its account. -/
theorem Course.account {s : σ} {reply : Reply (σ × List Call) CycleEffect}
    (h : Course r env.noted now (s, []) reply) : Account r now reply.state.2 reply.answer := by
  cases h with
  | cooling hcooling =>
    obtain ⟨calls, answer, hsurveyed, hcalls, hanswer⟩ :=
      r.measureOnly_surveyed env (.coolingDown _) (s, [])
    rw [hcalls, hanswer]
    exact .cooling hcooling hsurveyed
  | unlisted hready hfailed =>
    rw [Environment.unschedulablePods_noted] at hfailed
    have hcalls := (Exchange.noted_eq hfailed).2
    simp only [abandon, Exchange.done, Reply.state_delayed, Reply.answer_delayed, hcalls,
      List.nil_append]
    exact .unlisted hready
  | @waiting pods wait s₁ hready hlisted hpods =>
    rw [Environment.unschedulablePods_noted] at hlisted
    have hfirst : s₁.2 = [.unschedulablePods (.ok pods)] := (Exchange.noted_eq hlisted).2
    obtain ⟨calls, answer, hsurveyed, hcalls, hanswer⟩ :=
      r.measureOnly_surveyed env (.unschedulablePods pods.length) s₁
    rw [Reply.state_delayed, Reply.answer_delayed, hcalls, hanswer, hfirst]
    exact .waiting hready hpods hsurveyed
  | unsurveyed hgates hfailed =>
    obtain ⟨calls, hcalls, hsurveyed⟩ := hgates.surveyed hfailed
    simp only [abandon, Exchange.done, Reply.state_delayed, Reply.answer_delayed, hcalls]
    exact .unsurveyed hgates.ready hsurveyed
  | @deserted survey wait took s₁ s₂ hgates hsurvey hnone =>
    obtain ⟨nodes, pods, budgets, hlisted, heq⟩ := hgates.complete hsurvey
    have hfirst : survey.firstDrainable? r.policy = none := by
      rw [Survey.firstDrainable?, hnone]; rfl
    have haccount := Account.idle hgates.ready heq hfirst
    rw [hnone] at haccount
    rw [hlisted]
    exact haccount
  | @stuck survey wait took s₁ s₂ hgates hsurvey hsome hfirst =>
    obtain ⟨nodes, pods, budgets, hlisted, heq⟩ := hgates.complete hsurvey
    have houtcome : Outcome.ofNothing survey.snapshot.onDemand.length =
        .nothingDrainable survey.snapshot.onDemand.length := by
      rw [Outcome.ofNothing, if_neg (mt List.length_eq_zero_iff.1 hsome)]
    rw [hlisted, ← houtcome]
    exact .idle hgates.ready heq hfirst
  | @attempt survey node moved wait took s₁ s₂ hgates hsurvey hfirst =>
    -- the drain is all that is left to ask for, and a dry run does not ask
    obtain ⟨nodes, pods, budgets, hlisted, heq⟩ := hgates.complete hsurvey
    cases hdry : r.config.dryRun with
    | true =>
      rw [drain_of_dryRun hdry]
      simp only [Reply.answer_delayed, Reply.state_delayed, hlisted]
      exact .named hgates.ready heq hfirst hdry
    | false =>
      rcases hdrain : env.noted.drain (r.order node moved) s₂ with ⟨answer, elapsed, s₃⟩
      rw [drain_of_not_dryRun hdry hdrain]
      rw [Environment.drain_noted] at hdrain
      simp only [Reply.answer_delayed, Reply.state_delayed, (Exchange.noted_eq hdrain).2, hlisted]
      exact .ordered hgates.ready heq hfirst hdry

/-- **Every cycle has an account.** -/
theorem account_cycle (r : Rebalancer) (env : Environment σ) (now : Instant) (s : σ) :
    Account r now (r.calls env now s) (r.cycle env now s).answer := by
  have hcourse := (course_cycle r env.noted now (s, [])).account
  obtain ⟨calls, hcalls⟩ := r.journals_cycle env now s
  have hanswer : (r.cycle env.noted now (s, [])).answer = (r.cycle env now s).answer := by
    rw [hcalls]
  rw [hanswer] at hcourse
  exact hcourse

/-! ## Drains -/

/-- **The drains of a cycle**: what its journal and its effect say about them. -/
inductive Transcript (r : Rebalancer) (now : Instant) : List Call → CycleEffect → Prop where
  /-- No drain is attempted, and the end of the cooldown stays. -/
  | idle {calls : List Call} {effect : CycleEffect} (horders : Call.orders calls = [])
      (hidle : attempted effect.result = false) (hkept : effect.nextDrainAt = r.nextDrainAt) :
      Transcript r now calls effect
  /-- A dry run names the first drainable node. -/
  | named {nodes : List Node} {pods : List Pod} {budgets : List DisruptionBudget} {node : Node}
      {moved : List Pod} {effect : CycleEffect} (hready : r.coolingUntil? now = none)
      (hfirst : Survey.firstDrainable? ⟨.ofListing r.config.roleLabels nodes pods, budgets⟩
        r.policy = some (node, moved))
      (hdry : r.config.dryRun = true) (hattempted : attempted effect.result = true)
      (hnext : effect.nextDrainAt = some (r.cooldownEnd now ⟨0⟩)) :
      Transcript r now (Call.listings nodes pods budgets) effect
  /-- The drain of the first drainable node is ordered. -/
  | ordered {nodes : List Node} {pods : List Pod} {budgets : List DisruptionBudget} {node : Node}
      {moved : List Pod} {answer : Except RebalanceError Unit} {took : Duration}
      {effect : CycleEffect} (hready : r.coolingUntil? now = none)
      (hfirst : Survey.firstDrainable? ⟨.ofListing r.config.roleLabels nodes pods, budgets⟩
        r.policy = some (node, moved))
      (hdry : r.config.dryRun = false) (hattempted : attempted effect.result = true)
      (hnext : effect.nextDrainAt = some (r.cooldownEnd now took)) :
      Transcript r now (Call.listings nodes pods budgets ++
        [.drain (r.order node moved) answer took]) effect

/-- An account tells about drains. -/
theorem Account.transcript {calls : List Call} {effect : CycleEffect}
    (h : Account r now calls effect) :
    Transcript r now calls effect := by
  cases h with
  | cooling _ hsurvey => exact .idle hsurvey.orders_eq_nil rfl rfl
  | unlisted => exact .idle rfl rfl rfl
  | waiting _ _ hsurvey => exact .idle hsurvey.orders_eq_nil rfl rfl
  | unsurveyed _ hsurvey => exact .idle hsurvey.orders_eq_nil rfl rfl
  | idle => exact .idle (Call.orders_listings ..) (Outcome.attemptsDrain_ofNothing _) rfl
  | named hready hsurvey hfirst hdry => exact .named hready (hsurvey ▸ hfirst) hdry rfl rfl
  | ordered hready hsurvey hfirst hdry =>
    exact .ordered hready (hsurvey ▸ hfirst) hdry (Outcome.attemptsDrain_ofDrain ..) rfl

/-- **Every cycle tells about its drains.** -/
theorem transcript_cycle (r : Rebalancer) (env : Environment σ) (now : Instant) (s : σ) :
    Transcript r now (r.calls env now s) (r.cycle env now s).answer :=
  (account_cycle r env now s).transcript

end Rebalancer

end SpotRebalance
