import Mathlib.Data.List.Forall2
import SpotRebalance.Proofs.Exchange.Alike
import SpotRebalance.Proofs.Rebalancer.Journal

/-! # Two cycles side by side

Two rebalancers run a cycle, each in an environment of its own. If the environments list alike
(`Environment.ListsAlike`), and if what each rebalancer sees gives the same measurements and the
same node to drain (`Rebalancer.SeeAlike`), then the two cycles take the same course up to the drain
(`alike_cycle`). What is left to show of two cycles is then what their drains come to.

Environments that list alike still do so when a journal of each is kept, and the journals match
entry by entry (`ListsAlike.noted`). So two cycles can be compared by what they ask as well. -/

namespace SpotRebalance

universe u v

variable {σ : Type u} {τ : Type v}

/-! ## Environments side by side -/

/-- **Two environments list alike** from states that match: the same pods wait for the scheduler,
the budgets are the same, and the nodes and the pods are related. What fails in one fails in the
other. -/
structure Environment.ListsAlike (env : Environment σ) (env' : Environment τ)
    (A : List Node → List Node → Prop) (B : List Pod → List Pod → Prop)
    (R : σ → τ → Prop) : Prop where
  /-- The same pods wait for the scheduler. -/
  unschedulablePods : env.unschedulablePods.Alike env'.unschedulablePods R (InStep Eq R)
  /-- The nodes are related. -/
  nodes : env.nodes.Alike env'.nodes R (InStep (Agree A) R)
  /-- The pods are related. -/
  pods : env.pods.Alike env'.pods R (InStep (Agree B) R)
  /-- The budgets are the same. -/
  budgets : env.budgets.Alike env'.budgets R (InStep (Agree Eq) R)

/-- **Two entries tell of listings that are alike.** -/
inductive Call.ListedAlike (A : List Node → List Node → Prop) (B : List Pod → List Pod → Prop) :
    Call → Call → Prop where
  /-- The same pods wait for the scheduler. -/
  | unschedulablePods (answer : Except RebalanceError (List Pod)) :
      ListedAlike A B (.unschedulablePods answer) (.unschedulablePods answer)
  /-- The nodes are related. -/
  | nodes {answer answer' : Except RebalanceError (List Node)} (h : Agree A answer answer') :
      ListedAlike A B (.nodes answer) (.nodes answer')
  /-- The pods are related. -/
  | pods {answer answer' : Except RebalanceError (List Pod)} (h : Agree B answer answer') :
      ListedAlike A B (.pods answer) (.pods answer')
  /-- The budgets are the same. -/
  | budgets {answer answer' : Except RebalanceError (List DisruptionBudget)}
      (h : Agree Eq answer answer') :
      ListedAlike A B (.budgets answer) (.budgets answer')

/-- States match, and the journals that are kept with them match entry by entry. -/
def JournalsMatch (R : σ → τ → Prop) (C : Call → Call → Prop) (a : σ × List Call)
    (b : τ × List Call) : Prop :=
  R a.1 b.1 ∧ List.Forall₂ C a.2 b.2

/-- Exchanges that stay in step still do so if an entry is made in the journal of each. -/
theorem Exchange.Alike.noted {α α' : Type} {x : Exchange σ α} {y : Exchange τ α'}
    {A : α → α' → Prop} {R : σ → τ → Prop} {C : Call → Call → Prop} {entry : Reply σ α → Call}
    {entry' : Reply τ α' → Call} (h : x.Alike y R (InStep A R))
    (hentry : ∀ reply reply', A reply.answer reply'.answer → C (entry reply) (entry' reply')) :
    (x.noted entry).Alike (y.noted entry') (JournalsMatch R C) (InStep A (JournalsMatch R C)) := by
  intro s t hst
  obtain ⟨hanswer, hstate⟩ := h s.1 t.1 hst.1
  -- one entry is added to each journal, and they match because the answers are related
  exact ⟨hanswer, hstate, List.rel_append hst.2 (.cons (hentry _ _ hanswer) .nil)⟩

namespace Environment.ListsAlike

variable {env : Environment σ} {env' : Environment τ} {A : List Node → List Node → Prop}
  {B : List Pod → List Pod → Prop} {R : σ → τ → Prop}

/-- An environment lists like itself. -/
theorem refl (env : Environment σ) : env.ListsAlike env Eq Eq Eq where
  unschedulablePods := Exchange.alike_refl _
  nodes := Exchange.alike_agree _
  pods := Exchange.alike_agree _
  budgets := Exchange.alike_agree _

/-- **Environments that list alike do so with journals**, which match entry by entry. -/
theorem noted (h : env.ListsAlike env' A B R) :
    env.noted.ListsAlike env'.noted A B (JournalsMatch R (Call.ListedAlike A B)) where
  unschedulablePods := h.unschedulablePods.noted fun _ _ heq => heq ▸ .unschedulablePods _
  nodes := h.nodes.noted fun _ _ => .nodes
  pods := h.pods.noted fun _ _ => .pods
  budgets := h.budgets.noted fun _ _ => .budgets

/-- **Surveys of environments that list alike match** if related listings give snapshots that do. -/
theorem survey {V : Survey → Survey → Prop} {labels labels' : RoleLabels}
    (h : env.ListsAlike env' A B R)
    (hV : ∀ nodes nodes' pods pods' budgets, A nodes nodes' → B pods pods' →
      V ⟨.ofListing labels nodes pods, budgets⟩ ⟨.ofListing labels' nodes' pods', budgets⟩) :
    (env.survey labels).Alike (env'.survey labels') R (InStep (Agree V) R) := by
  refine h.nodes.andThen fun nodes nodes' hnodes => h.pods.andThen fun pods pods' hpods => ?_
  refine h.budgets.map fun answer answer' s t hstep => ?_
  obtain ⟨hagree, hst⟩ := hstep
  cases hagree with
  | error e => exact ⟨.error e, hst⟩
  | ok heq =>
    subst heq
    exact ⟨.ok (hV _ _ _ _ _ hnodes hpods), hst⟩

end Environment.ListsAlike

namespace Rebalancer

/-! ## Cycles side by side -/

/-- **Two rebalancers see the same** as far as it matters for a cycle. Surveys that match need not
be equal. -/
structure SeeAlike (r r' : Rebalancer) (env : Environment σ) (env' : Environment τ)
    (R : σ → τ → Prop) (V : Survey → Survey → Prop) : Prop where
  /-- Both wait for the same end of the cooldown. -/
  nextDrainAt : r'.nextDrainAt = r.nextDrainAt
  /-- The same pods wait for the scheduler. -/
  waiting : env.unschedulablePods.Alike env'.unschedulablePods R (InStep Eq R)
  /-- The surveys match. -/
  survey : (env.survey r.config.roleLabels).Alike (env'.survey r'.config.roleLabels) R
    (InStep (Agree V) R)
  /-- Surveys that match are measured alike. -/
  measurements : ∀ v v', V v v' → v'.measurements r'.policy.filter = v.measurements r.policy.filter
  /-- They show as many on-demand nodes. -/
  onDemand : ∀ v v', V v v' → v'.snapshot.onDemand.length = v.snapshot.onDemand.length
  /-- The same node is the first that can be drained, and the same pods move. -/
  first : ∀ v v', V v v' → v'.firstDrainable? r'.policy = v.firstDrainable? r.policy

section Cycles

variable {r r' : Rebalancer} {env : Environment σ} {env' : Environment τ} {R : σ → τ → Prop}
  {V : Survey → Survey → Prop} {P : CycleEffect → CycleEffect → σ → τ → Prop}

/-- Two cycles that only measure go alike. -/
theorem alike_measureOnly (h : SeeAlike r r' env env' R V)
    (hidle : ∀ effect s t, attempted effect.result = false → R s t → P effect effect s t)
    {outcome : Outcome} (houtcome : outcome.attemptsDrain = false) :
    (r.measureOnly env outcome).Alike (r'.measureOnly env' outcome) R P := by
  refine h.survey.map fun answer answer' s t hstep => ?_
  obtain ⟨hagree, hst⟩ := hstep
  rw [h.nextDrainAt]
  cases hagree with
  | error e => exact hidle _ s t houtcome hst
  | ok hv =>
    simp only [h.measurements _ _ hv]
    exact hidle _ s t houtcome hst

/-- Two cycles that are abandoned for the same reason go alike. -/
theorem alike_abandon (h : SeeAlike r r' env env' R V)
    (hidle : ∀ effect s t, attempted effect.result = false → R s t → P effect effect s t)
    (e : RebalanceError) :
    (r.abandon e : Exchange σ CycleEffect).Alike (r'.abandon e : Exchange τ CycleEffect) R P := by
  rw [abandon, abandon, h.nextDrainAt]
  exact Exchange.alike_done fun s t hst => hidle _ s t rfl hst

/-- Two cycles that pass the gates go alike if their drains do. -/
theorem alike_rebalance (now : Instant) (h : SeeAlike r r' env env' R V)
    (hidle : ∀ effect s t, attempted effect.result = false → R s t → P effect effect s t)
    (hdrain : ∀ shown node pods,
      (r.drain env now shown node pods).Alike (r'.drain env' now shown node pods) R P) :
    (r.rebalance env now).Alike (r'.rebalance env' now) R P := by
  refine h.survey.bind_inStep fun answer answer' hagree => ?_
  cases hagree with
  | error e => exact alike_abandon h hidle e
  | @ok v v' hv =>
    have hlength := h.onDemand v v' hv
    simp only [h.measurements v v' hv, h.first v v' hv, h.nextDrainAt]
    -- both show no on-demand node, or both show some
    rcases hnodes : v.snapshot.onDemand with _ | ⟨load, loads⟩ <;>
      rcases hnodes' : v'.snapshot.onDemand with _ | ⟨load', loads'⟩
        <;> rw [hnodes, hnodes'] at hlength
    · exact Exchange.alike_done fun s t hst => hidle _ s t rfl hst
    · cases hlength
    · cases hlength
    · rcases v.firstDrainable? r.policy with _ | ⟨node, pods⟩
      · simp only [hlength]
        exact Exchange.alike_done fun s t hst => hidle _ s t rfl hst
      · exact hdrain _ node pods

/-- **Two cycles that see the same go alike if their drains do.** A relation between what two cycles
come to holds if it holds between equal effects without an attempt, and between what two drains of
the same node come to. -/
theorem alike_cycle (now : Instant) (h : SeeAlike r r' env env' R V)
    (hidle : ∀ effect s t, attempted effect.result = false → R s t → P effect effect s t)
    (hdrain : ∀ shown node pods,
      (r.drain env now shown node pods).Alike (r'.drain env' now shown node pods) R P) :
    (r.cycle env now).Alike (r'.cycle env' now) R P := by
  -- both gates look at the end of the cooldown and at the pods that wait, and at nothing else
  have hcooling : r'.coolingUntil? now = r.coolingUntil? now := by
    rw [coolingUntil?, coolingUntil?, h.nextDrainAt]
  rw [cycle, cycle, hcooling]
  cases r.coolingUntil? now with
  | some next => exact alike_measureOnly h hidle rfl
  | none =>
    refine h.waiting.bind_inStep fun answer answer' heq => ?_
    obtain rfl := heq
    rcases answer with e | _ | ⟨pod, pods⟩
    · exact alike_abandon h hidle e
    · exact alike_rebalance now h hidle hdrain
    · exact alike_measureOnly h hidle rfl

end Cycles

end Rebalancer

end SpotRebalance
