import SpotRebalance.Proofs.ClusterApi.Targets
import SpotRebalance.Proofs.Eviction.Departures

/-! # Which evictions are announced

A worker announces an eviction once the server has answered it with success, and then it leaves. So
the pods that were announced are those whose workers are about to leave after such an answer
(`announced`), each one once, and an announcement is sent when the answer that it tells of has come
(`Sourced`). One step of the board keeps that (`Board.Heralded.step`), so a whole run does
(`Board.sent_run`). When all workers have left, the pods that were announced are those whose
evictions were answered with success (`Board.Sent.exists_told`). -/

namespace SpotRebalance

universe u

variable {σ : Type u}

/-! ## Events in the log -/

/-- The event that was to be kept. -/
def ApiExchange.event? : ApiExchange → Option ClusterEvent
  | ⟨_, .createEvent event, _, _⟩ => some event
  | ⟨_, .listNodes, _, _⟩ | ⟨_, .listPods _, _, _⟩ | ⟨_, .listBudgets, _, _⟩ | ⟨_, .getPod _, _, _⟩
  | ⟨_, .evict .., _, _⟩ => none

theorem ApiExchange.event?_of_createEvent {x : ApiExchange} {event : ClusterEvent}
    (h : x.request = .createEvent event) :
    x.event? = some event := by
  obtain ⟨sentAt, request, answeredAt, answer⟩ := x
  cases h
  rfl

/-- What looks up a pod keeps no event. -/
theorem ApiExchange.event?_of_lookup {x : ApiExchange} (h : x.lookup?.isSome) :
    x.event? = none := by
  obtain ⟨sentAt, request, answeredAt, answer⟩ := x
  cases request with
  | createEvent => cases h
  | listNodes | listPods | listBudgets | getPod | evict => rfl

/-! ## Answers of success -/

section Tried

variable {answers : List (Except ClientError Unit)}

/-- Among refusals for now there is no success. -/
theorem Tried.ok_notMem (h : Tried answers) : .ok () ∉ answers := by
  intro hok
  obtain ⟨_, heq, -⟩ := h _ hok
  cases heq

/-- After refusals for now only the last answer may be one of success. -/
theorem Tried.ok_mem_append_iff (h : Tried answers) {last : Except ClientError Unit} :
    .ok () ∈ answers ++ [last] ↔ last = .ok () := by
  rw [List.mem_append, List.mem_singleton, eq_comm, or_iff_right h.ok_notMem]

/-- What refuses before an answer of success refuses for now. -/
theorem Tried.temporary_of_mem_append (h : Tried answers) {e : ClientError}
    (he : .error e ∈ answers ++ [.ok ()]) :
    e.refusal = .temporary := by
  rcases List.mem_append.1 he with he | he
  · obtain ⟨_, heq, htemporary⟩ := h _ he
    cases heq
    exact htemporary
  · cases List.mem_singleton.1 he

end Tried

/-- **Beside an answer of success all answers are refusals for now.** -/
theorem Progress.temporary_of_ok {task : EvictionTask} {pod : Pod}
    {answers : List (Except ClientError Unit)} {step : WorkerStep}
    (h : Progress task pod answers step) (hok : .ok () ∈ answers) {e : ClientError}
    (he : .error e ∈ answers) : e.refusal = .temporary := by
  cases h with
  | fresh => cases hok
  | refused htried | timedOut htried => exact absurd hok htried.ok_notMem
  | accepted htried | announced htried => exact htried.temporary_of_mem_append he
  | gone htried | rejected htried => cases htried.ok_mem_append_iff.1 hok

/-- **Whether an eviction of a pod was answered with success.** -/
def wasEvicted (log : List ApiExchange) (pod : Pod) : Bool := (evictionAnswers log pod).any (·.isOk)

@[simp] theorem wasEvicted_nil (pod : Pod) : wasEvicted [] pod = false := rfl

@[simp] theorem wasEvicted_append (first second : List ApiExchange) (pod : Pod) :
    wasEvicted (first ++ second) pod = (wasEvicted first pod || wasEvicted second pod) := by
  simp [wasEvicted]

theorem wasEvicted_iff {log : List ApiExchange} {pod : Pod} :
    wasEvicted log pod ↔ .ok () ∈ evictionAnswers log pod := by
  rw [wasEvicted, List.any_eq_true]
  constructor
  · rintro ⟨answer, hanswer, hok⟩
    cases answer with
    | error e => cases hok
    | ok done => exact hanswer
  · exact fun h => ⟨_, h, rfl⟩

/-- Exchanges that evict other pods or none do not evict the pod. -/
theorem wasEvicted_eq_false {log : List ApiExchange} {pod : Pod}
    (h : evictionAnswers log pod = []) :
    wasEvicted log pod = false := by
  rw [wasEvicted, h, List.any_nil]

/-- A pod that was refused for now every time was not evicted. -/
theorem Tried.wasEvicted_eq_false {log : List ApiExchange} {pod : Pod}
    (h : Tried (evictionAnswers log pod)) :
    wasEvicted log pod = false := by
  rw [← Bool.not_eq_true, wasEvicted_iff]
  exact h.ok_notMem

/-- **A pod whose eviction was accepted is announced next.** -/
theorem Progress.wasEvicted_of_announce {task : EvictionTask} {log : List ApiExchange} {pod : Pod}
    (h : Progress task pod (evictionAnswers log pod) .announce) : wasEvicted log pod := by
  rw [wasEvicted_iff]
  generalize evictionAnswers log pod = answers at h
  cases h with
  | accepted htried => simp

/-! ## Announcements and what they tell of -/

/-- **An announcement has its source** in exchanges: the pod was evicted with success, and that
answer had come. -/
def Sourced (task : EvictionTask) (earlier : List ApiExchange) (x : ApiExchange) : Prop :=
  ∀ pod, x.event? = some (task.announcement pod) →
    ∃ y ∈ earlier, y.eviction? = some (pod, .ok ()) ∧ y.answeredAt ≤ x.sentAt

/-- **All announcements of a log have their sources** in what was exchanged before them. -/
def AllSourced (task : EvictionTask) (log : List ApiExchange) : Prop :=
  ∀ earlier x later, log = earlier ++ x :: later → Sourced task earlier x

section Sources

variable {task : EvictionTask} {log more : List ApiExchange} {x : ApiExchange}

/-- What announces no eviction needs no source. -/
theorem sourced_of_event? (h : ∀ pod, x.event? ≠ some (task.announcement pod)) :
    Sourced task log x :=
  fun pod hpod => absurd hpod (h pod)

/-- Another exchange may follow that has its source, if it needs one. -/
theorem AllSourced.append_singleton (h : AllSourced task log) (hx : Sourced task log x) :
    AllSourced task (log ++ [x]) := by
  intro earlier y later hsplit
  rcases List.eq_nil_or_concat later with rfl | ⟨front, last, rfl⟩
  · obtain ⟨rfl, hlast⟩ := List.append_inj' hsplit rfl
    obtain rfl := List.singleton_inj.1 hlast
    exact hx
  · rw [List.concat_eq_append, ← List.cons_append, ← List.append_assoc] at hsplit
    obtain ⟨rfl, -⟩ := List.append_inj' hsplit rfl
    exact h earlier y front rfl

/-- So may any number that announce nothing. -/
theorem AllSourced.append (h : AllSourced task log)
    (hmore : ∀ x ∈ more, ∀ pod, x.event? ≠ some (task.announcement pod)) :
    AllSourced task (log ++ more) := by
  induction more generalizing log with
  | nil => rwa [List.append_nil]
  | cons x more ih =>
    obtain ⟨hx, hmore⟩ := List.forall_mem_cons.1 hmore
    rw [← List.singleton_append, ← List.append_assoc]
    exact ih (h.append_singleton (sourced_of_event? hx)) hmore

/-- And one that announces nothing may come before. -/
theorem AllSourced.cons (h : AllSourced task log)
    (hx : ∀ pod, x.event? ≠ some (task.announcement pod)) :
    AllSourced task (x :: log) := by
  intro earlier y later hsplit
  cases earlier with
  | nil =>
    obtain ⟨rfl, -⟩ := List.cons.inj hsplit
    exact sourced_of_event? hx
  | cons z earlier =>
    obtain ⟨rfl, rfl⟩ := List.cons.inj hsplit
    intro pod hpod
    obtain ⟨source, hsource, heviction, hcame⟩ := h earlier y later rfl pod hpod
    exact ⟨source, List.mem_cons_of_mem _ hsource, heviction, hcame⟩

end Sources

/-! ## Announced pods -/

/-- Whether a worker is about to leave. -/
def WorkerStep.isLeave : WorkerStep → Bool
  | .leave _ => true
  | .attempt _ | .announce => false

/-- **The pods of a roster that were announced**: their evictions were answered with success, and
their workers have nothing left to do. -/
def announced (sent : List ApiExchange) (roster : List (Pod × WorkerStep)) : List Pod :=
  (roster.filter fun entry => entry.2.isLeave && wasEvicted sent entry.1).map (·.1)

section Announced

variable {sent : List ApiExchange} {roster roster' rest : List (Pod × WorkerStep)} {pod : Pod}
  {step : WorkerStep}

theorem announced_perm (h : roster.Perm roster') :
    (announced sent roster).Perm (announced sent roster') :=
  (h.filter _).map _

theorem announced_cons :
    announced sent ((pod, step) :: rest) =
      if step.isLeave && wasEvicted sent pod then pod :: announced sent rest
      else announced sent rest := by
  rw [announced, List.filter_cons]
  split <;> rfl

/-- An exchange for one pod does not announce others. -/
theorem announced_append {x : ApiExchange} (h : ∀ entry ∈ rest, evictionAnswers [x] entry.1 = []) :
    announced (sent ++ [x]) rest = announced sent rest := by
  refine congrArg (List.map _) (List.filter_congr fun entry hentry => ?_)
  rw [wasEvicted_append, wasEvicted_eq_false (h entry hentry), Bool.or_false]

/-- When all workers are about to leave, the pods that were announced are those that were
evicted. -/
theorem announced_of_leaving (h : ∀ entry ∈ roster, entry.2.isLeave) :
    announced sent roster = (roster.map (·.1)).filter (wasEvicted sent) := by
  rw [announced, List.filter_map]
  refine congrArg (List.map _) (List.filter_congr fun entry hentry => ?_)
  rw [h entry hentry, Bool.true_and]
  rfl

end Announced

/-! ## What steps keep -/

namespace Board

variable {api : ApiServer σ} {task : EvictionTask} {slots : Nat} {pods told : List Pod}
  {b b' : Board σ} {earlier sent : List ApiExchange}

/-- **What was sent from a board announces evictions**: those of the pods that were told of, in this
order. -/
structure Heralded (task : EvictionTask) (sent : List ApiExchange) (told : List Pod)
    (b : Board σ) : Prop where
  /-- All events announce evictions. -/
  events : sent.filterMap ApiExchange.event? = told.map task.announcement
  /-- They are those of the pods that were announced, each one once. -/
  told : told.Perm (announced sent b.roster)
  /-- Each comes after the answer that it tells of. -/
  sources : AllSourced task sent
  /-- When a worker is to announce an eviction, it was answered with success, and that answer has
  come. -/
  due : ∀ w ∈ b.active, w.step = .announce →
    ∃ y ∈ sent, y.eviction? = some (w.pod, .ok ()) ∧ y.answeredAt ≤ w.wake

/-- Starting workers announces nothing. -/
theorem Heralded.fill (h : Heralded task sent told b) :
    Heralded task sent told (b.fill task slots) where
  events := h.events
  told := by
    rw [roster_fill]
    exact h.told
  sources := h.sources
  due := by
    refine List.forall_mem_append.2 ⟨h.due, fun w hw => ?_⟩
    obtain ⟨entry, -, rfl⟩ := List.mem_map.1 hw
    nofun

/-- The board of a list of pods has announced nothing. -/
theorem heralded_start (task : EvictionTask) (slots : Nat) (pods : List Pod) (session : Session σ) :
    Heralded task [] [] (start task slots pods session) := by
  refine Heralded.fill ⟨rfl, ?_, ?_, by simp⟩
  · simp [announced]
  · intro earlier x later hsplit
    exact absurd hsplit (by simp)

section Step

variable {w w' : Worker} {others : List Worker}

/-- **An exchange of a worker that goes on to sleep** keeps this, if the pods told of are those
announced with it. -/
theorem Heralded.sleeps (h : Heralded task sent told b) (hactive : b.active.Perm (w :: others))
    {x : ApiExchange} {more : List Pod} {session : Session σ}
    (hevent : [x].filterMap ApiExchange.event? = more.map task.announcement)
    (hsource : Sourced task sent x)
    (htold : (told ++ more).Perm
      (announced (sent ++ [x]) ((w'.pod, w'.step) :: { b with active := others }.roster)))
    (hdue : w'.step = .announce → x.eviction? = some (w'.pod, .ok ()) ∧ x.answeredAt ≤ w'.wake) :
    Heralded task (sent ++ [x]) (told ++ more) { b with session, active := others ++ [w'] } where
  events := by rw [List.filterMap_append, List.map_append, h.events, hevent]
  told := by
    have hsleeping : { b with session, active := others ++ [w'] }.roster.Perm
        ((w'.pod, w'.step) :: { b with active := others }.roster) :=
      roster_perm (List.perm_append_singleton ..)
    exact htold.trans (announced_perm hsleeping.symm)
  sources := h.sources.append_singleton hsource
  due := by
    refine List.forall_mem_append.2 ⟨fun v hv hstep => ?_, List.forall_mem_singleton.2
      fun hstep => ?_⟩
    · obtain ⟨y, hy, hanswer⟩ := h.due v (hactive.mem_iff.2 (List.mem_cons_of_mem _ hv)) hstep
      exact ⟨y, List.mem_append_left _ hy, hanswer⟩
    · exact ⟨x, by simp, hdue hstep⟩

/-- A worker that leaves keeps this, if the pods told of are those announced without it. -/
theorem Heralded.leaves (h : Heralded task sent told b) (hactive : b.active.Perm (w :: others))
    {fault : Option EvictionFault}
    (htold : told.Perm
      (announced sent ((w.pod, .leave fault) :: { b with active := others }.roster))) :
    Heralded task sent told (Board.fill task slots
      { b with
        session := b.session.waitUntil w.wake
        active := others
        departures := b.departures ++ [⟨w.index, w.pod, w.wake, fault⟩] }) := by
  have hdeparted :=
    roster_departed b (b.session.waitUntil w.wake) others ⟨w.index, w.pod, w.wake, fault⟩
  refine Heralded.fill ⟨h.events, htold.trans (announced_perm hdeparted.symm), h.sources, ?_⟩
  exact fun v hv => h.due v (hactive.mem_iff.2 (List.mem_cons_of_mem _ hv))

end Step

/-- **A step announces what is due, once its answer has come.** -/
theorem Heralded.step (h : Heralded task sent told b)
    (hsound : Sound task slots pods earlier sent b) (hdistinct : (pods.map Pod.address).Nodup)
    (hstep : b.step? api task slots = some b') :
    ∃ sent' told', b'.session.log = b.session.log ++ sent' ∧
      Heralded task (sent ++ sent') told' b' := by
  obtain ⟨⟨w, others⟩, hnext, rfl⟩ := Option.map_eq_some_iff.1 hstep
  have hactive := next?_perm hnext
  have hledger := hsound.ledger.perm (roster_perm hactive).symm
  have hprogress : Progress task w.pod (evictionAnswers sent w.pod) w.step :=
    hledger.progress _ List.mem_cons_self
  have htold := h.told.trans (announced_perm (roster_perm hactive))
  rw [announced_cons] at htold
  have hmoves := Worker.moves_act api task w (b.session.waitUntil w.wake)
  simp only
  generalize w.act api task (b.session.waitUntil w.wake) = out at hmoves ⊢
  cases hmoves with
  | @attempts last server answeredAt answer hattempt hdue hlater =>
    -- nothing is announced, for an answer of success does not make the worker leave
    rw [hattempt] at hprogress htold
    have hrefused := hprogress.tried.wasEvicted_eq_false
    let x : ApiExchange := ⟨w.wake, task.request w.pod, answeredAt, answer⟩
    have hothers := hledger.evictionAnswers_of_others hdistinct (x := x) (by rintro other _ ⟨⟩; rfl)
    have hanswer : wasEvicted [x] w.pod = answer.isOk := by
      rw [wasEvicted, evictionAnswers_singleton_of_eviction rfl, List.any_cons, List.any_nil,
        Bool.or_false]
    have hquiet : x.event? = none := rfl
    have hevent : [x].filterMap ApiExchange.event? = ([] : List Pod).map task.announcement := rfl
    refine ⟨[x], told ++ [], rfl, h.sleeps hactive hevent (sourced_of_event? (by simp [hquiet])) ?_
      fun hannounce => ?_⟩
    · rw [List.append_nil, announced_cons, announced_append hothers, Worker.afterAnswer_pod,
        wasEvicted_append, hrefused, hanswer]
      cases answer with
      | error e =>
        rw [if_neg (by simp [Except.isOk, Except.toBool])]
        exact htold
      | ok done => exact htold
    · rw [Worker.afterAnswer_pod]
      rcases answer with e | done
      · cases hrefusal : e.refusal <;> simp [Worker.afterAnswer, hrefusal] at hannounce
      · exact ⟨rfl, Nat.le_refl _⟩
  | @announces server answeredAt answer hannounce htook =>
    rw [hannounce] at hprogress htold
    have hevicted := hprogress.wasEvicted_of_announce
    obtain ⟨y, hy, heviction, hcame⟩ := h.due w (hactive.mem_iff.2 List.mem_cons_self) hannounce
    let x : ApiExchange := ⟨w.wake, .createEvent (task.announcement w.pod), answeredAt, answer⟩
    have hquiet : x.eviction? = none := x.eviction?_of_createEvent rfl
    have hothers := hledger.evictionAnswers_of_others hdistinct (x := x) (by simp [hquiet])
    have hevent : [x].filterMap ApiExchange.event? = [w.pod].map task.announcement := rfl
    refine ⟨[x], told ++ [w.pod], rfl, h.sleeps hactive hevent ?_ ?_ fun hagain => ?_⟩
    · rintro pod hpod
      obtain rfl : w.pod = pod := by
        simp only [x, ApiExchange.event?, EvictionTask.announcement, Option.some.injEq,
          ClusterEvent.mk.injEq, EventSubject.pod.injEq] at hpod
        exact hpod.1
      exact ⟨y, hy, heviction, hcame⟩
    · -- the worker has nothing left to do but to leave, so its pod counts as announced from now on
      rw [announced_cons, announced_append hothers, wasEvicted_append, hevicted]
      exact (List.perm_append_singleton ..).trans (htold.cons _)
    · cases hagain
  | expires hattempt =>
    rw [hattempt] at hprogress htold
    refine ⟨[], told, (List.append_nil _).symm, ?_⟩
    rw [List.append_nil]
    refine h.leaves hactive ?_
    rw [announced_cons, hprogress.tried.wasEvicted_eq_false, Bool.and_false]
    exact htold
  | leaves hleave =>
    rw [hleave] at htold
    refine ⟨[], told, (List.append_nil _).symm, ?_⟩
    rw [List.append_nil]
    refine h.leaves hactive ?_
    rwa [announced_cons]

/-- **What a run sends**: it is sound, the server is asked it, and it announces what is due. -/
structure Sent (api : ApiServer σ) (task : EvictionTask) (slots : Nat) (pods : List Pod)
    (earlier sent : List ApiExchange) (b : Board σ) : Prop where
  /-- It is sound. -/
  sound : Sound task slots pods earlier sent b
  /-- The server is asked it. -/
  asked : ∀ x ∈ sent, api.Asked x
  /-- It announces what is due. -/
  heralded : ∃ told, Heralded task sent told b

/-- **A step keeps this.** -/
theorem Sent.step (h : Sent api task slots pods earlier sent b)
    (hdistinct : (pods.map Pod.address).Nodup) (hstep : b.step? api task slots = some b') :
    ∃ more, Sent api task slots pods earlier (sent ++ more) b' := by
  obtain ⟨told, hheralded⟩ := h.heralded
  obtain ⟨more, hsound⟩ := h.sound.step hdistinct hstep
  obtain ⟨more₁, told', hlog₁, hheralded'⟩ := hheralded.step h.sound hdistinct hstep
  obtain ⟨more₂, hlog₂, hasked⟩ := asked_step? hstep
  -- all three speak of what is new in the log
  have hnew : b'.session.log = b.session.log ++ more := by
    rw [hsound.log, h.sound.log, List.append_assoc]
  obtain rfl := List.append_cancel_left (hnew.symm.trans hlog₁)
  obtain rfl := List.append_cancel_left (hnew.symm.trans hlog₂)
  exact ⟨more, hsound, List.forall_mem_append.2 ⟨h.asked, hasked⟩, told', hheralded'⟩

/-- **A run keeps this.** -/
theorem sent_run (api : ApiServer σ) (task : EvictionTask) (slots : Nat) (pods : List Pod)
    (session : Session σ) (hdistinct : (pods.map Pod.address).Nodup) (fuel : Nat) :
    ∃ sent, Sent api task slots pods session.log sent
      (run api task slots fuel (start task slots pods session)) :=
  run_extends (fun h hstep => Sent.step h hdistinct hstep)
    ⟨sound_start task slots pods session, by simp, [], heralded_start task slots pods session⟩ fuel

/-- **When all workers have left, the pods that were evicted with success have been announced**,
each one once. -/
theorem Sent.exists_told (h : Sent api task slots pods earlier sent b) (hslots : 0 < slots)
    (hended : b.active = []) :
    ∃ told : List Pod, sent.filterMap ApiExchange.event? = told.map task.announcement ∧
      told.Perm (pods.filter (wasEvicted sent)) ∧ AllSourced task sent := by
  obtain ⟨told, hheralded⟩ := h.heralded
  refine ⟨told, hheralded.events, ?_, hheralded.sources⟩
  have hleaving : ∀ entry ∈ b.roster, entry.2.isLeave := by
    rw [h.sound.roster_eq hslots hended]
    exact List.forall_mem_map.2 fun d _ => rfl
  refine hheralded.told.trans ?_
  rw [announced_of_leaving hleaving]
  exact h.sound.ledger.pods.filter _

end Board

end SpotRebalance
