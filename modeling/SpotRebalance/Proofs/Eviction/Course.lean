import SpotRebalance.Eviction.Board
import SpotRebalance.Proofs.Clock.Timers
import SpotRebalance.Proofs.Eviction.Attempts

/-! # The course of an eviction

If the server answers without delay (`ApiServer.Prompt`), a worker attempts the eviction of its pod
at known times from its start on, one pause after the other, and the answers alone decide how this
ends (`EvictionCourse.Keeps`). It ends at the first answer that is no temporary refusal, or when the
most attempts that the time allows have been refused (`EvictionTask.mostAttempts`). The times are
those of a rhythm.

On the way, what a worker has sent follows from what it does next and when (`Follows`), and every
move keeps that (`Follows.moves`), in the rhythm of timers. -/

namespace SpotRebalance

universe u

open Duration (OnBeat)

variable {σ : Type u}

/-- **A server answers without delay.** -/
def ApiServer.Prompt (api : ApiServer σ) : Prop := ∀ request s, (api.handle request s).took = ⟨0⟩

/-- Neither is there a delay if a request cannot be sent. -/
theorem ApiServer.Prompt.took_ask {api : ApiServer σ} (h : api.Prompt)
    (request : ApiRequest) (s : σ) :
    (api.ask request s).took = ⟨0⟩ := by
  rw [ask]
  cases request.uri with
  | ok uri => exact h request s
  | error fault => rfl

/-- What is sent and waited for is answered at the same reading. -/
theorem ApiServer.Prompt.send_eq {api : ApiServer σ} (h : api.Prompt) {request : ApiRequest}
    {s s' : Session σ} {answer : ApiAnswer request} {took : Duration}
    (hsend : Session.send api request s = ⟨answer, took, s'⟩) :
    s'.clock = s.clock ∧ s'.log = s.log ++ [⟨s.clock, request, s.clock, answer⟩] := by
  obtain ⟨rfl, rfl, rfl⟩ := Reply.mk.inj hsend
  simp only [h.took_ask]
  exact ⟨rfl, rfl⟩

/-- The clock stands while something is announced. -/
theorem ApiServer.Prompt.clock_announce {api : ApiServer σ} (h : api.Prompt) (event : ClusterEvent)
    (s : Session σ) : (Session.announce api event s).state.clock = s.clock :=
  (h.send_eq rfl).1

/-! ## Times of attempts -/

namespace EvictionTask

/-- **How often an eviction is attempted at most** by a worker that starts at a reading: once, and
again after each pause before the time is up. -/
def mostAttempts (t : EvictionTask) (ρ : Rhythm) (start : Duration) : ℕ :=
  max 1 (ρ.filling t.retryInterval start t.timeout)

/-- When a worker that started at a reading wakes after a number of attempts and pauses. -/
def attemptAt (t : EvictionTask) (ρ : Rhythm) (start : Duration) : ℕ → Duration :=
  ρ.after t.retryInterval start

/-- An attempt that is answered at once. -/
def attempt (t : EvictionTask) (pod : Pod) (reading : Duration) (answer : Except ClientError Unit) :
    ApiExchange :=
  ⟨reading, t.request pod, reading, answer⟩

/-- **The attempts at an eviction** from a start on, with their answers. -/
def attempts (t : EvictionTask) (ρ : Rhythm) (pod : Pod) (start : Duration)
    (answers : List (Except ClientError Unit)) : List ApiExchange :=
  answers.mapIdx fun k answer => t.attempt pod (t.attemptAt ρ start k) answer

/-- The announcement of an eviction that is answered at once. -/
def note (t : EvictionTask) (pod : Pod) (reading : Duration) (answer : Except ClientError Unit) :
    ApiExchange :=
  ⟨reading, .createEvent (t.announcement pod), reading, answer⟩

variable {t : EvictionTask} {ρ : Rhythm} {pod : Pod} {start : Duration}

@[simp] theorem length_attempts (answers : List (Except ClientError Unit)) :
    (t.attempts ρ pod start answers).length = answers.length := by
  simp [attempts]

/-- Another attempt comes one pause after the last one. -/
theorem attempts_append_singleton (answers : List (Except ClientError Unit))
    (answer : Except ClientError Unit) :
    t.attempts ρ pod start (answers ++ [answer]) =
      t.attempts ρ pod start answers ++
        [t.attempt pod (t.attemptAt ρ start answers.length) answer] := by
  simp [attempts, List.mapIdx_append]

/-- **There is another attempt** if there was none, or if its time is not up. -/
theorem lt_mostAttempts_iff (hretry : 0 < t.retryInterval.nanos) {k : ℕ} :
    k < t.mostAttempts ρ start ↔ k = 0 ∨ ¬ start + t.timeout ≤ t.attemptAt ρ start k := by
  rw [mostAttempts, lt_max_iff, Nat.lt_one_iff, attemptAt, ρ.le_after_iff hretry, not_le]

/-- **There are no more attempts** than the quotient of the time and the pause says. -/
theorem mostAttempts_le (hretry : 0 < t.retryInterval.nanos) (ρ : Rhythm) (start : Duration) :
    t.mostAttempts ρ start ≤ max 1 (t.timeout.nanos ⌈/⌉ t.retryInterval.nanos) :=
  max_le_max_left 1 (ρ.filling_le hretry start t.timeout)

end EvictionTask

/-! ## Courses -/

/-- **The course of an eviction.** -/
structure EvictionCourse where
  /-- The pod. -/
  pod : Pod
  /-- When its worker started. -/
  start : Duration
  /-- What its worker sent. -/
  sent : List ApiExchange
  /-- When its worker left. -/
  leftAt : Duration
  /-- The fault that its worker left with, if there is one. -/
  fault : Option EvictionFault

/-- **A course keeps to the times of a task** in a rhythm. All attempts but the last are temporary
refusals. -/
inductive EvictionCourse.Keeps (task : EvictionTask) (ρ : Rhythm) : EvictionCourse → Prop where
  /-- The last attempt is accepted, which is announced at once. -/
  | accepted {pod : Pod} {start : Duration} {earlier : List (Except ClientError Unit)}
      {noted : Except ClientError Unit} (htried : Tried earlier)
      (hcount : earlier.length < task.mostAttempts ρ start) :
      Keeps task ρ ⟨pod, start, task.attempts ρ pod start (earlier ++ [.ok ()]) ++
        [task.note pod (task.attemptAt ρ start earlier.length) noted],
        task.attemptAt ρ start earlier.length, none⟩
  /-- At the last attempt the pod is gone. -/
  | gone {pod : Pod} {start : Duration} {earlier : List (Except ClientError Unit)} {e : ClientError}
      (htried : Tried earlier) (hcount : earlier.length < task.mostAttempts ρ start)
      (hgone : e.refusal = .gone) :
      Keeps task ρ ⟨pod, start, task.attempts ρ pod start (earlier ++ [.error e]),
        task.attemptAt ρ start earlier.length, none⟩
  /-- The last attempt is refused for good. -/
  | rejected {pod : Pod} {start : Duration} {earlier : List (Except ClientError Unit)}
      {e : ClientError} (htried : Tried earlier)
      (hcount : earlier.length < task.mostAttempts ρ start) (hfinal : e.refusal = .final) :
      Keeps task ρ ⟨pod, start, task.attempts ρ pod start (earlier ++ [.error e]),
        task.attemptAt ρ start earlier.length, some (.rejected pod.key e)⟩
  /-- As many attempts as there can be are refused for now. The worker leaves after the last pause,
  with the last error. -/
  | timedOut {pod : Pod} {start : Duration} {earlier : List (Except ClientError Unit)}
      {e : ClientError} (htried : Tried (earlier ++ [.error e]))
      (hcount : earlier.length + 1 = task.mostAttempts ρ start) :
      Keeps task ρ ⟨pod, start, task.attempts ρ pod start (earlier ++ [.error e]),
        task.attemptAt ρ start (task.mostAttempts ρ start),
        some (.timedOut pod.key task.timeout e.message)⟩

namespace EvictionCourse

variable {task : EvictionTask} {ρ ρ' : Rhythm} {c : EvictionCourse}

/-- **No course has more attempts than there can be.** -/
theorem Keeps.countP_eviction_le (h : c.Keeps task ρ) :
    c.sent.countP (·.eviction?.isSome) ≤ task.mostAttempts ρ c.start := by
  have hle {pod : Pod} {start : Duration} {earlier : List (Except ClientError Unit)}
      (last : Except ClientError Unit) :
      (task.attempts ρ pod start (earlier ++ [last])).countP (·.eviction?.isSome) ≤
        earlier.length + 1 :=
    List.countP_le_length.trans_eq (by simp)
  cases h with
  | accepted _ hcount =>
    -- what announces the eviction evicts nobody
    rw [List.countP_append, List.countP_singleton, ApiExchange.eviction?_of_createEvent rfl]
    exact (hle _).trans hcount
  | gone _ hcount | rejected _ hcount => exact (hle _).trans hcount
  | timedOut _ hcount => exact (hle _).trans_eq hcount

/-- A course looks up nobody. -/
theorem Keeps.lookup?_eq_none (h : c.Keeps task ρ) : ∀ x ∈ c.sent, x.lookup? = none := by
  have hattempts {pod : Pod} {start : Duration} {answers : List (Except ClientError Unit)} :
      ∀ x ∈ task.attempts ρ pod start answers, x.lookup? = none := by
    intro x hx
    obtain ⟨k, hk, rfl⟩ := List.mem_mapIdx.1 hx
    exact ApiExchange.lookup?_of_request rfl
  cases h with
  | accepted =>
    exact List.forall_mem_append.2
      ⟨hattempts, List.forall_mem_singleton.2 (ApiExchange.lookup?_of_createEvent rfl)⟩
  | gone | rejected | timedOut => exact hattempts

/-- **A course keeps to another rhythm** if that has the same times from its start on, perhaps with
other pauses. -/
theorem Keeps.congr {pause : Duration} (h : c.Keeps task ρ)
    (hafter : ρ'.after pause c.start = ρ.after task.retryInterval c.start)
    (hfilling : ρ'.filling pause c.start task.timeout =
      ρ.filling task.retryInterval c.start task.timeout) :
    c.Keeps { task with retryInterval := pause } ρ' := by
  let task' : EvictionTask := { task with retryInterval := pause }
  have hat : task'.attemptAt ρ' c.start = task.attemptAt ρ c.start := hafter
  have hmost : task'.mostAttempts ρ' c.start = task.mostAttempts ρ c.start :=
    congrArg (max 1) hfilling
  have hattempts (pod : Pod) (answers : List (Except ClientError Unit)) :
      task'.attempts ρ' pod c.start answers = task.attempts ρ pod c.start answers := by
    rw [EvictionTask.attempts, EvictionTask.attempts, hat]
    rfl
  cases h with
  | accepted htried hcount =>
    rw [← hattempts, ← hat]
    exact .accepted htried (hmost ▸ hcount)
  | gone htried hcount hgone =>
    rw [← hattempts, ← hat]
    exact .gone htried (hmost ▸ hcount) hgone
  | rejected htried hcount hfinal =>
    rw [← hattempts, ← hat]
    exact .rejected htried (hmost ▸ hcount) hfinal
  | timedOut htried hcount =>
    rw [← hattempts, ← hat, ← hmost]
    exact .timedOut htried (hcount.trans hmost.symm)

end EvictionCourse

/-! ## On the way -/

/-- **How far the eviction of a pod has got.** -/
inductive Stage where
  /-- It waits for a worker. -/
  | waits (pod : Pod)
  /-- It has a worker. -/
  | works (worker : Worker)
  /-- Its worker has left. -/
  | left (departure : Departure)

/-- The pod. -/
def Stage.pod : Stage → Pod
  | waits pod => pod
  | works w => w.pod
  | left d => d.pod

/-- The stage after a worker has acted. -/
def Stage.after (w : Worker) : Worker.Act → Stage
  | .sleeps w' => works w'
  | .left fault => left ⟨w.index, w.pod, w.wake, fault⟩

/-- **What was sent for a pod follows from its stage.** Workers start at readings of work that began
at a reading. -/
inductive Follows (task : EvictionTask) (began : Duration) : Stage → List ApiExchange → Prop where
  /-- Nothing is sent before there is a worker. -/
  | waits {pod : Pod} : Follows task began (.waits pod) []
  /-- A worker that will make an attempt has made as many as it had pauses. -/
  | attempts {w : Worker} {start : Duration} {answers : List (Except ClientError Unit)}
      {last : Option ClientError} (hstep : w.step = .attempt last)
      (hprogress : Progress task w.pod answers (.attempt last)) (hstart : OnBeat began start)
      (hcount : answers.length ≤ task.mostAttempts .timers start)
      (hwake : w.wake = task.attemptAt .timers start answers.length)
      (hdeadline : w.deadline = start + task.timeout) :
      Follows task began (.works w) (task.attempts .timers w.pod start answers)
  /-- A worker that will announce the eviction was accepted at once. -/
  | announces {w : Worker} {start : Duration} {earlier : List (Except ClientError Unit)}
      (hstep : w.step = .announce) (htried : Tried earlier) (hstart : OnBeat began start)
      (hcount : earlier.length < task.mostAttempts .timers start)
      (hwake : w.wake = task.attemptAt .timers start earlier.length) :
      Follows task began (.works w) (task.attempts .timers w.pod start (earlier ++ [.ok ()]))
  /-- A worker that will leave has its course behind it. -/
  | leaves {w : Worker} {start : Duration} {sent : List ApiExchange} {fault : Option EvictionFault}
      (hstep : w.step = .leave fault) (hstart : OnBeat began start)
      (hkeeps : EvictionCourse.Keeps task .timers ⟨w.pod, start, sent, w.wake, fault⟩) :
      Follows task began (.works w) sent
  /-- So has a worker that has left. -/
  | left {d : Departure} {start : Duration} {sent : List ApiExchange} (hstart : OnBeat began start)
      (hkeeps : EvictionCourse.Keeps task .timers ⟨d.pod, start, sent, d.leftAt, d.fault⟩) :
      Follows task began (.left d) sent

/-- A worker leaves at a reading of work that began when it did. -/
theorem EvictionCourse.Keeps.onBeat {task : EvictionTask} {c : EvictionCourse} {began : Duration}
    (h : c.Keeps task .timers) (hstart : OnBeat began c.start) : OnBeat began c.leftAt := by
  cases h <;> exact hstart.afterPauses ..

namespace Follows

variable {api : ApiServer σ} {task : EvictionTask} {w : Worker} {began start : Duration}
  {s : Session σ} {own : List ApiExchange} {answers : List (Except ClientError Unit)}

/-- A worker that starts has sent nothing. -/
theorem begins {now : Duration} (hnow : OnBeat began now) (index : ℕ) (pod : Pod) :
    Follows task began (.works (.start task now index pod)) [] := by
  have hnothing : Follows task began (.works (.start task now index pod))
      (task.attempts .timers pod now []) :=
    attempts rfl .fresh hnow (Nat.zero_le _) rfl rfl
  exact hnothing

/-- A worker wakes at a reading of the work. -/
theorem onBeat (h : Follows task began (.works w) own) : OnBeat began w.wake := by
  cases h with
  | attempts _ _ hstart _ hwake | announces _ _ hstart _ hwake =>
    rw [hwake]
    exact hstart.afterPauses ..
  | leaves _ hstart hkeeps => exact hkeeps.onBeat hstart

/-- **An answer that comes at once** takes a worker on, and its next attempt is one pause later. -/
theorem answered (htried : Tried answers) (hstart : OnBeat began start)
    (hcount : answers.length < task.mostAttempts .timers start)
    (hwake : w.wake = task.attemptAt .timers start answers.length)
    (hdeadline : w.deadline = start + task.timeout) (answer : Except ClientError Unit) :
    Follows task began (.works (w.afterAnswer task w.wake answer))
      (task.attempts .timers w.pod start (answers ++ [answer])) := by
  have hprogress : Progress task w.pod (answers ++ [answer])
      (w.afterAnswer task w.wake answer).step :=
    Worker.progress_afterAnswer htried answer
  -- only a temporary refusal makes it pause; every other answer ends its attempts
  rcases answer with e | done
  · cases h : e.refusal with
    | temporary =>
      simp only [Worker.afterAnswer, h] at hprogress ⊢
      refine attempts (w := { w with wake := _, step := _ }) rfl hprogress hstart ?_ ?_ hdeadline
      · rw [List.length_append]
        exact hcount
      · rw [List.length_append, List.length_singleton, hwake]
        rfl
    | gone =>
      simp only [Worker.afterAnswer, h]
      exact leaves rfl hstart (hwake ▸ .gone htried hcount h)
    | final =>
      simp only [Worker.afterAnswer, h]
      exact leaves rfl hstart (hwake ▸ .rejected htried hcount h)
  · exact announces rfl htried hstart hcount hwake

/-- **Every move keeps a pod on its course**: what a worker sends follows what it has sent. -/
theorem moves {out : Worker.Act × Session σ} (h : Follows task began (.works w) own)
    (hprompt : api.Prompt) (hretry : 0 < task.retryInterval.nanos)
    (hmoves : w.Moves api task s out) :
    ∃ more, out.2.log = s.log ++ more ∧ Follows task began (.after w out.1) (own ++ more) := by
  cases hmoves with
  | @attempts last server answeredAt answer hattempt hdue hlater htook =>
    rw [hprompt.took_ask] at htook
    obtain rfl : answeredAt = w.wake := htook
    refine ⟨_, rfl, ?_⟩
    cases h with
    | @attempts _ start answers _ hstep hprogress hstart hcount hwake hdeadline =>
      rw [hattempt] at hstep
      cases hstep
      have hmore : answers.length < task.mostAttempts .timers start := by
        rw [EvictionTask.lt_mostAttempts_iff hretry, ← hwake, ← hdeadline]
        rcases hdue with rfl | hearly
        · cases hprogress
          exact Or.inl rfl
        · exact Or.inr hearly
      have hnext := answered hprogress.tried hstart hmore hwake hdeadline answer
      rw [EvictionTask.attempts_append_singleton, ← hwake] at hnext
      exact hnext
    | announces hstep | leaves hstep =>
      rw [hattempt] at hstep
      cases hstep
  | @expires e hattempt hlate =>
    refine ⟨[], (List.append_nil _).symm, ?_⟩
    rw [List.append_nil]
    cases h with
    | @attempts _ start answers _ hstep hprogress hstart hcount hwake hdeadline =>
      rw [hattempt] at hstep
      cases hstep
      rw [hdeadline, hwake] at hlate
      cases hprogress with
      | @refused earlier _ htried =>
        -- after one attempt at least the time is up, so there is no other
        have hlast : ¬ (earlier ++ [Except.error e]).length < task.mostAttempts .timers start := by
          rw [EvictionTask.lt_mostAttempts_iff hretry, not_or, not_not]
          exact ⟨by simp, hlate⟩
        rw [List.length_append, List.length_singleton] at hlast hcount hwake
        have hall : earlier.length + 1 = task.mostAttempts .timers start := by omega
        refine left hstart ?_
        rw [hwake, hall]
        exact .timedOut htried hall
    | announces hstep | leaves hstep =>
      rw [hattempt] at hstep
      cases hstep
  | @announces server answeredAt answer hannounce htook =>
    rw [hprompt.took_ask] at htook
    obtain rfl : answeredAt = w.wake := htook
    refine ⟨_, rfl, ?_⟩
    cases h with
    | @announces _ start earlier hstep htried hstart hcount hwake =>
      exact leaves rfl hstart (hwake ▸ .accepted htried hcount)
    | attempts hstep | leaves hstep =>
      rw [hannounce] at hstep
      cases hstep
  | @leaves fault hleave =>
    refine ⟨[], (List.append_nil _).symm, ?_⟩
    rw [List.append_nil]
    cases h with
    | leaves hstep hstart hkeeps =>
      rw [hleave] at hstep
      cases hstep
      exact left hstart hkeeps
    | attempts hstep | announces hstep =>
      rw [hleave] at hstep
      cases hstep

end Follows

/-- A worker keeps its pod. -/
theorem Worker.Moves.pod_after {api : ApiServer σ} {task : EvictionTask} {w : Worker}
    {s : Session σ} {out : Act × Session σ} (h : w.Moves api task s out) :
    (Stage.after w out.1).pod = w.pod := by
  cases h with
  | attempts => exact Worker.afterAnswer_pod _
  | expires | announces | leaves => rfl

end SpotRebalance
