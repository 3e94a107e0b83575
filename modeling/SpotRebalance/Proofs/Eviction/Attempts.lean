import SpotRebalance.Eviction.Worker
import SpotRebalance.Proofs.Clock.Timers
import SpotRebalance.Proofs.ClusterApi.Log

/-! # Attempts at an eviction

The log of a session tells how the evictions of a pod were answered (`evictionAnswers`). These
answers decide what the worker of the pod does next: up to the last one they are temporary refusals,
and the last one is what it acts on (`Progress`). So a worker that leaves without a fault got
exactly one answer that accepts the eviction, and one that leaves with a fault got none
(`Progress.countP_accepted`, `Progress.not_accepted`).

`Worker.Moves` lists what a worker can do when it wakes, with all that it leaves behind. -/

namespace SpotRebalance

universe u

variable {σ : Type u}

/-! ## What answers say -/

/-- Whether an answer accepts an eviction: the server says so, or that there is no such pod. -/
def acceptsEviction : Except ClientError Unit → Bool
  | .ok () => true
  | .error (.fault f) => f.code == 404
  | .error (.unsendable _) | .error (.connection _) | .error (.unreadable _)
  | .error .endlessLine => false

@[simp] theorem acceptsEviction_ok : acceptsEviction (.ok ()) = true := rfl

/-- An error accepts an eviction exactly if it says that the pod is gone. -/
@[simp] theorem acceptsEviction_error (e : ClientError) :
    acceptsEviction (.error e) = (e.refusal == .gone) := by
  cases e with
  | fault f =>
    rw [acceptsEviction, ClientError.refusal]
    split
    · rw [beq_eq_false_iff_ne.2 (by omega)]
      rfl
    · split
      · rename_i hgone
        rw [hgone]
        rfl
      · rename_i hfinal
        rw [beq_eq_false_iff_ne.2 hfinal]
        rfl
  | unsendable | connection | unreadable | endlessLine => rfl

/-- **All answers so far are temporary refusals.** -/
def Tried (answers : List (Except ClientError Unit)) : Prop :=
  ∀ a ∈ answers, ∃ e : ClientError, a = .error e ∧ e.refusal = .temporary

/-- A temporary refusal accepts nothing. -/
theorem Tried.countP_accepted {answers : List (Except ClientError Unit)} (h : Tried answers) :
    answers.countP acceptsEviction = 0 := by
  rw [List.countP_eq_zero]
  intro a ha
  obtain ⟨e, rfl, he⟩ := h a ha
  simp [he]

/-- Another temporary refusal may follow. -/
theorem Tried.append_singleton {answers : List (Except ClientError Unit)} (h : Tried answers)
    {e : ClientError} (he : e.refusal = .temporary) : Tried (answers ++ [.error e]) := by
  intro a ha
  rcases List.mem_append.1 ha with ha | ha
  · exact h a ha
  · exact ⟨e, List.mem_singleton.1 ha, he⟩

/-- **The eviction of a pod failed**, as the log shows: it was rejected, or it was attempted and
always refused for now. -/
def EvictionFailed (log : List ApiExchange) (pod : Pod) : Prop :=
  (∃ e : ClientError, .error e ∈ evictionAnswers log pod ∧ e.refusal = .final) ∨
    evictionAnswers log pod ≠ [] ∧ Tried (evictionAnswers log pod)

/-! ## Progress -/

/-- **The answers that a pod got so far decide what its worker does next.** -/
inductive Progress (task : EvictionTask) (pod : Pod) :
    List (Except ClientError Unit) → WorkerStep → Prop where
  /-- Nothing was asked yet. -/
  | fresh : Progress task pod [] (.attempt none)
  /-- All attempts were refused for now. -/
  | refused {earlier : List (Except ClientError Unit)} {e : ClientError}
      (htried : Tried (earlier ++ [.error e])) :
      Progress task pod (earlier ++ [.error e]) (.attempt (some e))
  /-- The last attempt was accepted. -/
  | accepted {earlier : List (Except ClientError Unit)} (htried : Tried earlier) :
      Progress task pod (earlier ++ [.ok ()]) .announce
  /-- The last attempt was accepted, and that was announced. -/
  | announced {earlier : List (Except ClientError Unit)} (htried : Tried earlier) :
      Progress task pod (earlier ++ [.ok ()]) (.leave none)
  /-- At the last attempt the pod was gone. -/
  | gone {earlier : List (Except ClientError Unit)} {e : ClientError} (htried : Tried earlier)
      (hgone : e.refusal = .gone) : Progress task pod (earlier ++ [.error e]) (.leave none)
  /-- The last attempt was refused for good. -/
  | rejected {earlier : List (Except ClientError Unit)} {e : ClientError} (htried : Tried earlier)
      (hfinal : e.refusal = .final) :
      Progress task pod (earlier ++ [.error e]) (.leave (some (.rejected pod.key e)))
  /-- All attempts were refused for now, until the time was up. -/
  | timedOut {earlier : List (Except ClientError Unit)} {e : ClientError}
      (htried : Tried (earlier ++ [.error e])) :
      Progress task pod (earlier ++ [.error e])
        (.leave (some (.timedOut pod.key task.timeout e.message)))

namespace Progress

variable {task : EvictionTask} {pod : Pod} {answers : List (Except ClientError Unit)}
  {fault : EvictionFault}

/-- **A worker that leaves in peace was accepted exactly once.** -/
theorem countP_accepted (h : Progress task pod answers (.leave none)) :
    answers.countP acceptsEviction = 1 := by
  cases h with
  | announced htried => simp [List.countP_append, htried.countP_accepted]
  | gone htried hgone => simp [List.countP_append, htried.countP_accepted, hgone]

/-- **A worker that leaves with a fault was never accepted.** -/
theorem not_accepted (h : Progress task pod answers (.leave (some fault))) :
    answers.countP acceptsEviction = 0 := by
  cases h with
  | rejected htried hfinal => simp [List.countP_append, htried.countP_accepted, hfinal]
  | timedOut htried => exact htried.countP_accepted

/-- **An eviction that is rejected is never accepted.** -/
theorem not_accepted_of_rejected {step : WorkerStep} (h : Progress task pod answers step)
    {e : ClientError} (he : .error e ∈ answers) (hfinal : e.refusal = .final) :
    answers.countP acceptsEviction = 0 := by
  -- before the last answer nothing is final
  have hlast {earlier : List (Except ClientError Unit)} {last : Except ClientError Unit}
      (htried : Tried earlier)
      (he : .error e ∈ earlier ++ [last]) : last = .error e := by
    rcases List.mem_append.1 he with he | he
    · obtain ⟨_, heq, htemporary⟩ := htried _ he
      cases heq
      rw [hfinal] at htemporary
      cases htemporary
    · exact (List.mem_singleton.1 he).symm
  cases h with
  | fresh => cases he
  | refused htried | timedOut htried => exact htried.countP_accepted
  | accepted htried | announced htried => cases hlast htried he
  | gone htried hgone =>
    cases hlast htried he
    rw [hfinal] at hgone
    cases hgone
  | rejected htried hfinal' => exact not_accepted (@rejected task pod _ _ htried hfinal')

/-- A worker that leaves has made an attempt. -/
theorem ne_nil {fault : Option EvictionFault} (h : Progress task pod answers (.leave fault)) :
    answers ≠ [] := by
  cases h <;> simp

/-- A worker may give up when it was refused for now. -/
theorem expire {e : ClientError} (h : Progress task pod answers (.attempt (some e))) :
    Progress task pod answers (.leave (some (.timedOut pod.key task.timeout e.message))) := by
  cases h with
  | refused htried => exact .timedOut htried

/-- A worker may leave when it has announced the eviction. -/
theorem announce (h : Progress task pod answers .announce) :
    Progress task pod answers (.leave none) := by
  cases h with
  | accepted htried => exact .announced htried

/-- A worker that makes another attempt was refused for now every time. -/
theorem tried {last : Option ClientError} (h : Progress task pod answers (.attempt last)) :
    Tried answers := by
  cases h with
  | fresh => simp [Tried]
  | refused htried => exact htried

end Progress

/-- **A fault is that of a pod**: an answer rejected the eviction, or refused it for now when its
time was up. -/
inductive EvictionFault.Concerns (task : EvictionTask) (pod : Pod)
    (answers : List (Except ClientError Unit)) :
    EvictionFault → Prop where
  /-- The server rejected it. -/
  | rejected {e : ClientError} (hanswered : .error e ∈ answers) (hfinal : e.refusal = .final) :
      Concerns task pod answers (.rejected pod.key e)
  /-- Its time was up. -/
  | timedOut {e : ClientError} (hanswered : .error e ∈ answers)
      (htemporary : e.refusal = .temporary) :
      Concerns task pod answers (.timedOut pod.key task.timeout e.message)

/-- The fault of a worker that leaves is one of its pod. -/
theorem Progress.concerns {task : EvictionTask} {pod : Pod}
    {answers : List (Except ClientError Unit)} {fault : EvictionFault}
    (h : Progress task pod answers (.leave (some fault))) :
    fault.Concerns task pod answers := by
  cases h with
  | rejected _ hfinal => exact .rejected (by simp) hfinal
  | @timedOut earlier e htried =>
    obtain ⟨_, heq, htemporary⟩ := htried (.error e) (by simp)
    cases heq
    exact .timedOut (by simp) htemporary

/-! ## What a worker does -/

/-- What asks for the eviction of a pod evicts it. -/
theorem ApiExchange.eviction?_of_request {x : ApiExchange} {task : EvictionTask} {pod : Pod}
    (h : x.request = task.request pod) : ∃ answer, x.eviction? = some (pod, answer) := by
  obtain ⟨sentAt, request, answeredAt, answer⟩ := x
  cases h
  exact ⟨answer, rfl⟩

/-- What asks for the eviction of a pod looks up nobody. -/
theorem ApiExchange.lookup?_of_request {x : ApiExchange} {task : EvictionTask} {pod : Pod}
    (h : x.request = task.request pod) : x.lookup? = none := by
  obtain ⟨sentAt, request, answeredAt, answer⟩ := x
  cases h
  rfl

namespace Worker

variable {task : EvictionTask} {w : Worker} {answeredAt : Duration}

@[simp] theorem afterAnswer_pod (answer : Except ClientError Unit) :
    (w.afterAnswer task answeredAt answer).pod = w.pod := by
  rcases answer with e | done
  · cases h : e.refusal <;> simp [afterAnswer, h]
  · rfl

@[simp] theorem afterAnswer_deadline (answer : Except ClientError Unit) :
    (w.afterAnswer task answeredAt answer).deadline = w.deadline := by
  rcases answer with e | done
  · cases h : e.refusal <;> simp [afterAnswer, h]
  · rfl

/-- A worker sleeps until its answer has come, at least. -/
theorem le_wake_afterAnswer (answer : Except ClientError Unit) :
    answeredAt.nanos ≤ (w.afterAnswer task answeredAt answer).wake.nanos := by
  rcases answer with e | done
  · cases h : e.refusal with
    | temporary =>
      simp only [afterAnswer, h]
      exact Duration.le_afterPause answeredAt task.retryInterval
    | gone | final => simp [afterAnswer, h]
  · exact Nat.le_refl _

/-- **An answer takes a worker on** to what it decides. -/
theorem progress_afterAnswer {answers : List (Except ClientError Unit)} (htried : Tried answers)
    (answer : Except ClientError Unit) :
    Progress task w.pod (answers ++ [answer]) (w.afterAnswer task answeredAt answer).step := by
  rcases answer with e | done
  · cases h : e.refusal with
    | temporary =>
      simp only [afterAnswer, h]
      exact .refused (htried.append_singleton h)
    | gone =>
      simp only [afterAnswer, h]
      exact .gone htried h
    | final =>
      simp only [afterAnswer, h]
      exact .rejected htried h
  · exact .accepted htried

/-- **What a worker can do** when it wakes, and what it leaves behind. -/
inductive Moves (api : ApiServer σ) (task : EvictionTask) (w : Worker) (s : Session σ) :
    Act × Session σ → Prop where
  /-- It attempts the eviction. -/
  | attempts {last : Option ClientError} {server : σ} {answeredAt : Duration}
      {answer : Except ClientError Unit} (hstep : w.step = .attempt last)
      (hdue : last = none ∨ ¬ w.deadline ≤ w.wake) (hlater : w.wake ≤ answeredAt)
      (htook : answeredAt = w.wake + (api.ask (task.request w.pod) s.server).took) :
      Moves api task w s (.sleeps (w.afterAnswer task answeredAt answer),
        { s with server, log := s.log ++ [⟨w.wake, task.request w.pod, answeredAt, answer⟩] })
  /-- It gives up, for its time is up. -/
  | expires {e : ClientError} (hstep : w.step = .attempt (some e)) (hlate : w.deadline ≤ w.wake) :
      Moves api task w s (.left (some (.timedOut w.pod.key task.timeout e.message)), s)
  /-- It announces the eviction. -/
  | announces {server : σ} {answeredAt : Duration} {answer : Except ClientError Unit}
      (hstep : w.step = .announce)
      (htook : answeredAt = w.wake +
        (api.ask (.createEvent (task.announcement w.pod)) s.server).took) :
      Moves api task w s (.sleeps { w with wake := answeredAt, step := .leave none },
        { s with server, log := s.log ++
          [⟨w.wake, .createEvent (task.announcement w.pod), answeredAt, answer⟩] })
  /-- It leaves. -/
  | leaves {fault : Option EvictionFault} (hstep : w.step = .leave fault) :
      Moves api task w s (.left fault, s)

/-- **Whatever a worker does is one of these.** -/
theorem moves_act (api : ApiServer σ) (task : EvictionTask) (w : Worker) (s : Session σ) :
    Moves api task w s (w.act api task s) := by
  rw [act]
  split
  · exact .leaves ‹_›
  · exact .announces ‹_› rfl
  · rename_i last hstep
    split
    · rename_i fault hfault
      rw [overdue?] at hfault
      split at hfault
      · rename_i hlate
        obtain ⟨e, rfl, rfl⟩ := Option.map_eq_some_iff.1 hfault
        exact .expires hstep hlate
      · cases hfault
    · rename_i hnone
      refine .attempts hstep ?_ (Nat.le_add_right ..) rfl
      rw [overdue?] at hnone
      split at hnone
      · exact Or.inl (Option.map_eq_none_iff.1 hnone)
      · exact Or.inr ‹_›

end Worker

end SpotRebalance
