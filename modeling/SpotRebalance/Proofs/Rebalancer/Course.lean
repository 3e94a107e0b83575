import SpotRebalance.Proofs.Exchange.Sequence
import SpotRebalance.Proofs.Instant.Saturation
import SpotRebalance.Rebalancer.Cycle

/-! # The courses of a cycle

A cycle ends at a gate, at a listing that fails, for want of a node to drain, or with an attempt at
a drain. `Course` lists these ends with all that leads to each: what the environment answered, how
long it took and in which state it was left. Every cycle takes one of them (`course_cycle`), so what
holds of all cycles is proved by cases on the course, and the definition of the cycle need not be
opened again.

A dry run differs from any other only in how it drains (`drain_of_dryRun`,
`drain_of_not_dryRun`). -/

namespace SpotRebalance

universe u

variable {σ : Type u}

/-! ## Drains -/

/-- The outcome of the drain of a node. -/
def Outcome.ofDrain (node : String) (pods : Nat) : Except RebalanceError Unit → Outcome
  | .ok () => .drained node pods
  | .error e => .drainFailed node e.message

/-- How a drain counts in metrics. -/
def DrainResult.ofAnswer : Except RebalanceError Unit → DrainResult
  | .ok () => .success
  | .error _ => .failure

/-- Whatever comes of a drain, it was an attempt. -/
@[simp] theorem Outcome.attemptsDrain_ofDrain (node : String) (pods : Nat)
    (answer : Except RebalanceError Unit) :
    (Outcome.ofDrain node pods answer).attemptsDrain = true := by
  cases answer <;> rfl

namespace Rebalancer

variable {r : Rebalancer} {env : Environment σ} {now : Instant} {s s' : σ}

/-! ## The gates -/

/-- No cooldown lasts if none was set or if it has ended. -/
theorem coolingUntil?_eq_none_iff :
    r.coolingUntil? now = none ↔ ∀ next, r.nextDrainAt = some next → next ≤ now := by
  simp [coolingUntil?, Option.filter_eq_none_iff, not_lt]

/-- **A cycle passes both gates**: no cooldown lasts, and the scheduler can place every pod. -/
structure PassesGates (r : Rebalancer) (env : Environment σ) (now : Instant) (s : σ)
    (wait : Duration) (s' : σ) : Prop where
  /-- No cooldown lasts. -/
  ready : r.coolingUntil? now = none
  /-- There is no pod that the scheduler cannot place. -/
  placed : env.unschedulablePods s = ⟨.ok [], wait, s'⟩

/-! ## The courses -/

/-- **What a cycle can do**, and when. -/
inductive Course (r : Rebalancer) (env : Environment σ) (now : Instant) (s : σ) :
    Reply σ CycleEffect → Prop where
  /-- The cooldown lasts, and the cycle only measures. -/
  | cooling {next : Instant} (hcooling : r.coolingUntil? now = some next) :
      Course r env now s (r.measureOnly env (.coolingDown next) s)
  /-- It is not known whether the scheduler can place every pod. -/
  | unlisted {e : RebalanceError} {wait : Duration} {s₁ : σ} (hready : r.coolingUntil? now = none)
      (hfailed : env.unschedulablePods s = ⟨.error e, wait, s₁⟩) :
      Course r env now s ((r.abandon e s₁).delayed wait)
  /-- There are pods that the scheduler cannot place, and the cycle only measures. -/
  | waiting {pods : List Pod} {wait : Duration} {s₁ : σ} (hready : r.coolingUntil? now = none)
      (hlisted : env.unschedulablePods s = ⟨.ok pods, wait, s₁⟩) (hpods : pods ≠ []) :
      Course r env now s ((r.measureOnly env (.unschedulablePods pods.length) s₁).delayed wait)
  /-- The survey fails. -/
  | unsurveyed {e : RebalanceError} {wait took : Duration} {s₁ s₂ : σ}
      (hgates : PassesGates r env now s wait s₁)
      (hfailed : env.survey r.config.roleLabels s₁ = ⟨.error e, took, s₂⟩) :
      Course r env now s (((r.abandon e s₂).delayed took).delayed wait)
  /-- There are no on-demand nodes. -/
  | deserted {survey : Survey} {wait took : Duration} {s₁ s₂ : σ}
      (hgates : PassesGates r env now s wait s₁)
      (hsurvey : env.survey r.config.roleLabels s₁ = ⟨.ok survey, took, s₂⟩)
      (hnone : survey.snapshot.onDemand = []) :
      Course r env now s
        ⟨⟨.ok .noOnDemandNodes, survey.measurements r.policy.filter, r.nextDrainAt⟩,
          wait + (took + ⟨0⟩), s₂⟩
  /-- No on-demand node can be drained. -/
  | stuck {survey : Survey} {wait took : Duration} {s₁ s₂ : σ}
      (hgates : PassesGates r env now s wait s₁)
      (hsurvey : env.survey r.config.roleLabels s₁ = ⟨.ok survey, took, s₂⟩)
      (hsome : survey.snapshot.onDemand ≠ []) (hfirst : survey.firstDrainable? r.policy = none) :
      Course r env now s
        ⟨⟨.ok (.nothingDrainable survey.snapshot.onDemand.length),
          survey.measurements r.policy.filter, r.nextDrainAt⟩, wait + (took + ⟨0⟩), s₂⟩
  /-- The first on-demand node that can be drained is drained, or named in a dry run. -/
  | attempt {survey : Survey} {node : Node} {pods : List Pod} {wait took : Duration} {s₁ s₂ : σ}
      (hgates : PassesGates r env now s wait s₁)
      (hsurvey : env.survey r.config.roleLabels s₁ = ⟨.ok survey, took, s₂⟩)
      (hfirst : survey.firstDrainable? r.policy = some (node, pods)) :
      Course r env now s
        (((r.drain env now (survey.measurements r.policy.filter) node pods s₂).delayed took).delayed
          wait)

/-- Once both gates are passed, the survey decides the course. -/
theorem course_rebalance {wait : Duration} (hgates : PassesGates r env now s wait s') :
    Course r env now s ((r.rebalance env now s').delayed wait) := by
  -- the cases follow the survey: it failed, it showed no on-demand node, or none or one of them can
  -- be drained
  rcases hsurvey : env.survey r.config.roleLabels s' with ⟨answer, took, s₂⟩
  rw [rebalance, Exchange.bind_eq hsurvey]
  cases answer with
  | error e => exact .unsurveyed hgates hsurvey
  | ok survey =>
    rcases hnodes : survey.snapshot.onDemand with _ | ⟨load, loads⟩
    · simp only [hnodes]
      exact .deserted hgates hsurvey hnodes
    · have hsome : survey.snapshot.onDemand ≠ [] := by simp [hnodes]
      rcases hfirst : survey.firstDrainable? r.policy with _ | ⟨node, pods⟩
      · simp only [hnodes, hfirst]
        rw [← hnodes]
        exact .stuck hgates hsurvey hsome hfirst
      · simp only [hnodes, hfirst]
        exact .attempt hgates hsurvey hfirst

/-- **Every cycle takes one of the courses.** -/
theorem course_cycle (r : Rebalancer) (env : Environment σ) (now : Instant) (s : σ) :
    Course r env now s (r.cycle env now s) := by
  rw [cycle]
  rcases hready : r.coolingUntil? now with _ | next
  · rcases hlisted : env.unschedulablePods s with ⟨answer, wait, s₁⟩
    simp only [Exchange.bind_eq hlisted]
    rcases answer with e | pods
    · exact .unlisted hready hlisted
    · rcases pods with _ | ⟨pod, pods⟩
      · exact course_rebalance ⟨hready, hlisted⟩
      · exact .waiting hready hlisted (by simp)
  · exact .cooling hready

/-- Whether a result is that of an attempt at a drain. -/
def attempted : Except RebalanceError Outcome → Bool
  | .ok outcome => outcome.attemptsDrain
  | .error _ => false

/-! ## The parts of a course -/

/-- A cycle that only measures comes to the outcome of its gate. -/
theorem result_measureOnly (r : Rebalancer) (env : Environment σ) (outcome : Outcome) (s : σ) :
    (r.measureOnly env outcome s).answer.result = .ok outcome := by
  rcases hsurvey : env.survey r.config.roleLabels s with ⟨answer, took, s'⟩
  rw [measureOnly, Exchange.map_eq hsurvey]
  cases answer <;> rfl

/-- A dry run names the node at once and leaves the environment alone. -/
theorem drain_of_dryRun {shown : List Measurement} {node : Node} {pods : List Pod}
    (hdry : r.config.dryRun = true) :
    r.drain env now shown node pods s =
      ⟨⟨.ok (.dryRun node.name pods.length), shown, some (r.cooldownEnd now ⟨0⟩)⟩, ⟨0⟩, s⟩ := by
  rw [drain, if_pos hdry]
  rfl

/-- **A drain that is ordered takes its time**, has the outcome of its answer, and is measured after
what was shown. Whatever comes of it, the cooldown starts at its end. -/
theorem drain_of_not_dryRun {shown : List Measurement} {node : Node} {pods : List Pod}
    {answer : Except RebalanceError Unit} {took : Duration} (hdry : r.config.dryRun = false)
    (hdrain : env.drain (r.order node pods) s = ⟨answer, took, s'⟩) :
    r.drain env now shown node pods s =
      ⟨⟨.ok (.ofDrain node.name pods.length answer),
        shown ++ [.drained (.ofAnswer answer) node.name], some (r.cooldownEnd now took)⟩,
          took, s'⟩ := by
  simp only [drain, hdry, hdrain, Bool.false_eq_true, if_false]
  cases answer with
  | ok done => rfl
  | error e => rfl

/-- What a cycle reports, from its effect. -/
theorem runAt_answer (r : Rebalancer) (env : Environment σ) (now : Instant) (s : σ) :
    (r.runAt env now s).answer =
      { result := (r.cycle env now s).answer.result
        measurements := (r.cycle env now s).answer.measurements ++
          [.cycle (resultLabel (r.cycle env now s).answer.result) (r.cycle env now s).took]
        rebalancer :=
          { r with
            nextDrainAt := (r.cycle env now s).answer.nextDrainAt
            status := nextStatus r.status now (r.cycle env now s).answer } } := rfl

end Rebalancer

end SpotRebalance
