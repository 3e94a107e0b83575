import SpotRebalance.Proofs.Eviction.Announcements
import SpotRebalance.Proofs.Eviction.Pace

/-! # The events of a drain

An observer of the events learns what a drain did (`Mirrored`): it began, it moved just those pods
whose evictions the server answered with success, each one once that answer had come, and it ended
as it says it did. A drain is mirrored so exactly if it comes to an end, whatever the server answers
and in whatever order the workers leave: the clock has room for its deadlines, and it does not pause
for ever (`drain_mirrored`). It does not if there are pauses between attempts and between passes
(`drain_ne_stalled`).

A drain that is interrupted announces its start and evictions, and nothing after that. -/

namespace SpotRebalance

universe u

variable {σ : Type u}

/-! ## Drains without an end -/

/-- When all workers have left, a board does not stall. -/
theorem Board.result_ne_stalled {b : Board σ} (hended : b.active = [] ∨ b.BrokenOff) :
    b.result ≠ .error .stalled := by
  intro hstalled
  rcases hended with hended | hbroken
  · rw [Board.result_eq_ok_iff.2 ⟨hended, rfl⟩] at hstalled
    cases hstalled
  · rw [Board.result_eq_clockExhausted_iff.2 hbroken] at hstalled
    cases hstalled

namespace Deletion

/-- Passes come to an end: with every pause the deadline is nearer. -/
theorem awaitFrom_ne_stalled (api : ApiServer σ) {w : Watch} {fuel : Nat} (hfuel : 0 < fuel)
    {s : Session σ}
    (hreach : w.deadline.nanos + w.pollInterval.nanos ≤
      s.clock.nanos + fuel * w.pollInterval.nanos) :
    (awaitFrom api w fuel s).answer ≠ .error .stalled := by
  induction fuel generalizing s with
  | zero => omega
  | succ fuel ih =>
    obtain ⟨looked, hpassed⟩ := passed_pass api w.node w.pods s
    rcases hpass : pass api w.node w.pods s with ⟨left, took, s₁⟩
    rw [hpass] at hpassed
    have hclock : s.clock.nanos ≤ s₁.clock.nanos := hpassed.clock
    rw [awaitFrom, Exchange.bind_eq hpass]
    cases left with
    | nil => rintro ⟨⟩
    | cons key keys =>
      simp only
      split
      · rintro ⟨⟩
      · rename_i hearly
        have hearly : s₁.clock.nanos < w.deadline.nanos := Nat.lt_of_not_le hearly
        -- a pause brings the deadline as much nearer as one pass less could reach
        rw [Nat.succ_mul] at hreach
        have hmore : 0 < fuel := Nat.pos_of_ne_zero fun hzero => by
          rw [hzero, Nat.zero_mul] at hreach
          omega
        rcases hsleep : Session.sleep w.pollInterval s₁ with ⟨⟨⟩, paused, s₂⟩
        obtain ⟨hlater, -⟩ := Session.sleep_eq hsleep
        have hpause := Duration.add_le_afterPause s₁.clock w.pollInterval
        rw [← hlater, Duration.le_iff, Duration.nanos_add] at hpause
        rw [Exchange.bind_eq hsleep]
        exact ih hmore (by omega)

/-- **A wait for deletion comes to an end**, if there are pauses between passes. -/
theorem await_ne_stalled (api : ApiServer σ) (node : String) (pods : List Pod)
    {pollInterval : Duration} (timeout : Duration) (hpoll : 0 < pollInterval.nanos)
    (s : Session σ) :
    (await api node pods pollInterval timeout s).answer ≠ .error .stalled := by
  rw [await]
  split
  · rintro ⟨⟩
  · rename_i deadline hlater
    obtain rfl := Duration.eq_of_later? hlater
    -- so many passes are let through that their pauses add up to the whole time
    have hparts := Nat.div_add_mod timeout.nanos pollInterval.nanos
    have hrest := Nat.mod_lt timeout.nanos hpoll
    rw [Nat.mul_comm] at hparts
    refine awaitFrom_ne_stalled api (by simp [mostPasses]) ?_
    simp only [mostPasses, Duration.nanos_add, Nat.max_eq_left hpoll, Nat.add_mul]
    omega

end Deletion

namespace ClusterApi

variable {api : ApiServer σ} {pacing : Pacing} {order : DrainOrder} {s : Session σ}

/-- **A drain stalls**: it goes on for ever. -/
def Stalls (api : ApiServer σ) (pacing : Pacing) (order : DrainOrder) (s : Session σ) : Prop :=
  (drain api pacing order s).answer = .error .stalled

/-- A node is emptied or not, but not for ever, if there are pauses between attempts and between
passes. -/
theorem emptyNode_ne_stalled (hretry : 0 < pacing.retryInterval.nanos)
    (hpoll : 0 < pacing.pollInterval.nanos) :
    (emptyNode api pacing order s).answer ≠ .error .stalled := by
  have hends : (evictions api pacing order s).result ≠ .error .stalled :=
    Board.result_ne_stalled (ended_evictions hretry)
  rcases emptyNode_cases api pacing order s with
    ⟨why, hwhy, hanswer, -⟩ | ⟨fault, -, hanswer, -⟩ | ⟨-, hanswer, -⟩
  · rw [hanswer, ← hwhy]
    exact hends
  · rw [hanswer]
    rintro ⟨⟩
  · rw [hanswer, awaitDeparture]
    cases order.gracePeriod.add? pacing.headroom with
    | none => rintro ⟨⟩
    | some timeout => exact Deletion.await_ne_stalled api _ _ _ hpoll _

/-- **Drains do not stall** if there are pauses between attempts and between passes. -/
theorem drain_ne_stalled (hretry : 0 < pacing.retryInterval.nanos)
    (hpoll : 0 < pacing.pollInterval.nanos) :
    ¬ Stalls api pacing order s := fun hstalls =>
  emptyNode_ne_stalled hretry hpoll (drain_eq_error_iff.1 hstalls)

/-- **Emptying a node comes to an end** exactly if the clock has room for it, unless it stalls. -/
theorem hasRoom_iff_isOk (hends : (emptyNode api pacing order s).answer ≠ .error .stalled) :
    HasRoom api pacing order s ↔ ∃ result, (emptyNode api pacing order s).answer = .ok result := by
  constructor
  · intro hroom
    rcases hanswer : (emptyNode api pacing order s).answer with (_ | _) | result
    · -- one deadline is too late for the clock, of a worker or of the wait
      rcases emptyNode_eq_clockExhausted_iff.1 hanswer with hbroken | ⟨hok, hlate⟩
      · obtain ⟨w, hw, hlate⟩ := hbroken.exists_late
        exact absurd (hroom.workers _ (Nat.le_refl _) w hw) hlate
      · exact absurd (hroom.departure hok) hlate
    · exact absurd hanswer hends
    · exact ⟨result, rfl⟩
  · rintro ⟨result, hanswer⟩
    have hexhausted : ¬ (emptyNode api pacing order s).answer = .error .clockExhausted := by
      rw [hanswer]
      exact nofun
    rw [emptyNode_eq_clockExhausted_iff, not_or, not_and, not_not] at hexhausted
    refine ⟨fun steps hsteps => deadline_le_clockEnd hsteps ?_, hexhausted.2⟩
    -- the workers have left, for the evictions were not interrupted
    rcases emptyNode_cases api pacing order s with ⟨why, -, hwhy, -⟩ | ⟨fault, hfault, -⟩ | ⟨hok, -⟩
    · rw [hanswer] at hwhy
      cases hwhy
    · exact (Board.result_eq_ok_iff.1 hfault).1
    · exact (Board.result_eq_ok_iff.1 hok).1

/-! ## What is announced while a node is emptied -/

/-- **Exchanges announce evictions**: those of the pods that were evicted with success, and of no
others. -/
structure Announces (api : ApiServer σ) (task : EvictionTask) (pods : List Pod)
    (sent : List ApiExchange) (told : List Pod) : Prop where
  /-- All events announce evictions. -/
  events : sent.filterMap ApiExchange.event? = told.map task.announcement
  /-- They are those of the pods that were evicted with success, each one once. -/
  told : told.Perm (pods.filter (wasEvicted sent))
  /-- Each comes after the answer that it tells of. -/
  sources : AllSourced task sent
  /-- The server is asked for the evictions. -/
  asked : ∀ x ∈ sent, x.eviction?.isSome → api.Asked x
  /-- Beside success a pod was only refused for now. -/
  refusals : ∀ pod ∈ pods, wasEvicted sent pod →
    ∀ e : ClientError, .error e ∈ evictionAnswers sent pod → e.refusal = .temporary

section Announces

variable {task : EvictionTask} {pods told : List Pod} {sent more : List ApiExchange}

/-- Exchanges that evict and announce nothing may follow. -/
theorem Announces.append (h : Announces api task pods sent told)
    (heviction : ∀ x ∈ more, x.eviction? = none) (hevent : ∀ x ∈ more, x.event? = none) :
    Announces api task pods (sent ++ more) told := by
  have hanswers (pod : Pod) : evictionAnswers (sent ++ more) pod = evictionAnswers sent pod := by
    rw [evictionAnswers_append, evictionAnswers_eq_nil_of_quiet heviction, List.append_nil]
  have hevicted : wasEvicted (sent ++ more) = wasEvicted sent :=
    funext fun pod => by rw [wasEvicted, wasEvicted, hanswers]
  constructor
  · rw [List.filterMap_append, List.filterMap_eq_nil_iff.2 hevent, List.append_nil, h.events]
  · rw [hevicted]
    exact h.told
  · exact h.sources.append fun x hx pod => by simp [hevent x hx]
  · refine List.forall_mem_append.2 ⟨h.asked, fun x hx hsome => ?_⟩
    rw [heviction x hx] at hsome
    cases hsome
  · simp only [hevicted, hanswers]
    exact h.refusals

/-- The eviction of an announced pod was answered with success. -/
theorem Announces.exists_eviction (h : Announces api task pods sent told) {x : ApiExchange}
    (hx : x ∈ sent) {pod : Pod} (hevent : x.event? = some (task.announcement pod)) :
    ∃ y ∈ sent, y.eviction? = some (pod, .ok ()) := by
  obtain ⟨earlier, later, rfl⟩ := List.append_of_mem hx
  obtain ⟨y, hy, heviction, -⟩ := h.sources earlier x later rfl pod hevent
  exact ⟨y, List.mem_append_left _ hy, heviction⟩

/-- An announced pod was evicted with success. -/
theorem Announces.evicted_of_event? (h : Announces api task pods sent told) {x : ApiExchange}
    (hx : x ∈ sent) {pod : Pod} (hevent : x.event? = some (task.announcement pod)) :
    wasEvicted sent pod := by
  obtain ⟨y, hy, heviction⟩ := h.exists_eviction hx hevent
  rw [wasEvicted_iff]
  exact List.mem_filterMap.2 ⟨_, List.mem_filterMap.2 ⟨y, hy, heviction⟩, by simp⟩

end Announces

/-- **A board that has come to an end has announced what it evicted.** -/
theorem announces_of_sent {task : EvictionTask} {slots : Nat} {pods : List Pod}
    {earlier sent : List ApiExchange} {b : Board σ}
    (h : Board.Sent api task slots pods earlier sent b) (hslots : 0 < slots)
    (hended : b.active = []) : ∃ told, Announces api task pods sent told := by
  obtain ⟨told, hevents, htold, hsources⟩ := h.exists_told hslots hended
  refine ⟨told, hevents, htold, hsources, fun x hx _ => h.asked x hx,
    fun pod hpod hevicted e he => ?_⟩
  -- each pod is on the roster, and there its answers decide what its worker has come to
  obtain ⟨entry, hentry, rfl⟩ := List.mem_map.1 (h.sound.ledger.pods.mem_iff.2 hpod)
  exact (h.sound.ledger.progress entry hentry).temporary_of_ok (wasEvicted_iff.1 hevicted) he

/-- **Emptying a node announces evictions only**, and if it comes to an end, just those that
succeeded. -/
theorem announces_emptyNode (api : ApiServer σ) (pacing : Pacing) (order : DrainOrder)
    (s : Session σ) (hdistinct : (order.pods.map Pod.address).Nodup) :
    ∃ sent told, (emptyNode api pacing order s).state.log = s.log ++ sent ∧
      sent.filterMap ApiExchange.event? = told.map (evictionTask pacing order).announcement ∧
      ∀ result, (emptyNode api pacing order s).answer = .ok result →
        Announces api (evictionTask pacing order) order.pods sent told := by
  obtain ⟨sent, hsent⟩ :
    ∃ sent, Board.Sent api (evictionTask pacing order) pacing.concurrency order.pods
      s.log sent (evictions api pacing order s) := Board.sent_run _ _ _ _ _ hdistinct _
  have hended {result : Except EvictionFault Unit}
      (hresult : (evictions api pacing order s).result = .ok result) :
      ∃ told, Announces api (evictionTask pacing order) order.pods sent told :=
    announces_of_sent hsent pacing.concurrency_pos (Board.result_eq_ok_iff.1 hresult).1
  rcases emptyNode_cases api pacing order s with
    ⟨why, -, hanswer, hstate⟩ | ⟨fault, hresult, -, hstate⟩ | ⟨hresult, -, hstate⟩
  · obtain ⟨told, hheralded⟩ := hsent.heralded
    rw [hanswer, hstate]
    exact ⟨sent, told, hsent.sound.log, hheralded.events, nofun⟩
  · obtain ⟨told, htold⟩ := hended hresult
    rw [hstate]
    exact ⟨sent, told, hsent.sound.log, htold.events, fun _ _ => htold⟩
  · obtain ⟨told, htold⟩ := hended hresult
    -- the pods are only looked up from now on
    obtain ⟨watched, hwatched⟩ :=
      watched_awaitDeparture api pacing order (evictions api pacing order s).session
    have hevents : ∀ x ∈ watched, x.event? = none := fun x hx => by
      obtain ⟨pod, found, hlookup⟩ := hwatched.lookups x hx
      exact x.event?_of_lookup (by simp [hlookup])
    have hall := htold.append hwatched.eviction?_eq_none hevents
    rw [hstate]
    refine ⟨sent ++ watched, told, ?_, hall.events, fun _ _ => hall⟩
    rw [hwatched.log, hsent.sound.log, List.append_assoc]

/-! ## Whole drains -/

/-- **The event that closes a drain** says what it answers. There is none to what was
interrupted. -/
inductive Closes (order : DrainOrder) :
    Except Interruption (Except RebalanceError Unit) → ClusterEvent → Prop where
  /-- The drain succeeded. -/
  | succeeded : Closes order (.ok (.ok ())) ⟨.node order.node.name, .normal, "DrainSucceeded",
      "all pods evicted"⟩
  /-- The drain failed, for the reason that the event names. -/
  | failed {reason : String} : Closes order (.ok (.error (.drainFailed order.node.name reason)))
      ⟨.node order.node.name, .warning, "DrainFailed", reason⟩

/-- **The events mirror a drain.** -/
structure Mirrored (pacing : Pacing) (order : DrainOrder) (s : Session σ)
    (reply : Reply (Session σ) (Except Interruption (Except RebalanceError Unit)))
    (sent : List ApiExchange) : Prop where
  /-- The log holds what was sent. -/
  log : reply.state.log = s.log ++ sent
  /-- The first event says that the drain started, the last one how it ended, and those between
  announce just the pods that were evicted with success, each one once. -/
  events : ∃ (told : List Pod) (closing : ClusterEvent), sent.filterMap ApiExchange.event? =
      drainStarted order :: told.map (evictionTask pacing order).announcement ++ [closing] ∧
    told.Perm (order.pods.filter (wasEvicted sent)) ∧ Closes order reply.answer closing
  /-- A pod is announced after the answer of success to its eviction. -/
  sources : AllSourced (evictionTask pacing order) sent
  /-- A pod that was gone, rejected or refused until its time was up is not announced. -/
  unmoved : ∀ pod ∈ order.pods,
    (∃ e : ClientError, .error e ∈ evictionAnswers sent pod ∧ e.refusal = .gone) ∨
      EvictionFailed sent pod →
    ∀ x ∈ sent, x.event? ≠ some ((evictionTask pacing order).announcement pod)
  /-- All events can be sent. -/
  sendable : ∀ x ∈ sent, ∀ event, x.event? = some event →
    ∃ uri, (ApiRequest.createEvent event).uri = .ok uri

/-- No event about a node announces an eviction. -/
theorem node_ne_announcement {task : EvictionTask} {event : ClusterEvent} {name : String}
    (h : event.subject = .node name) (pod : Pod) : event ≠ task.announcement pod := by
  rintro rfl
  cases h

/-- What a drain answers is what its closing event says. -/
theorem closes_drainEnded (order : DrainOrder) (result : Except EvictionFault Unit) :
    Closes order (.ok (outcome order result)) (drainEnded order result) := by
  cases result with
  | ok done => exact .succeeded
  | error fault => exact .failed

section Closes

variable {answer : Except Interruption (Except RebalanceError Unit)} {closing : ClusterEvent}

/-- No closing event announces an eviction. -/
theorem Closes.ne_announcement (h : Closes order answer closing) (task : EvictionTask) (pod : Pod) :
    closing ≠ task.announcement pod := by
  cases h <;> exact node_ne_announcement rfl pod

/-- Closing events can be sent. -/
theorem Closes.exists_uri (h : Closes order answer closing) :
    ∃ uri, (ApiRequest.createEvent closing).uri = .ok uri := by
  cases h <;> exact ApiRequest.exists_uri_of_node ..

end Closes

section Announces

variable {task : EvictionTask} {pods told : List Pod} {sent : List ApiExchange}

/-- **An announced pod was neither gone nor did its eviction fail.** -/
theorem Announces.not_unmoved (h : Announces api task pods sent told) {pod : Pod}
    (hpod : pod ∈ pods) (hevicted : wasEvicted sent pod) :
    ¬ ((∃ e : ClientError, .error e ∈ evictionAnswers sent pod ∧ e.refusal = .gone) ∨
      EvictionFailed sent pod) := by
  rintro (⟨e, he, hgone⟩ | ⟨e, he, hfinal⟩ | ⟨-, htried⟩)
  · rw [h.refusals pod hpod hevicted e he] at hgone
    cases hgone
  · rw [h.refusals pod hpod hevicted e he] at hfinal
    cases hfinal
  · rw [htried.wasEvicted_eq_false] at hevicted
    cases hevicted

/-- **The announcements can be sent.** -/
theorem Announces.exists_uri (h : Announces api task pods sent told) {x : ApiExchange}
    (hx : x ∈ sent) {event : ClusterEvent} (hevent : x.event? = some event) :
    ∃ uri, (ApiRequest.createEvent event).uri = .ok uri := by
  -- the event announces a pod, and that was evicted, so its target could be reached
  have htold : event ∈ told.map task.announcement := h.events ▸ List.mem_filterMap.2 ⟨x, hx, hevent⟩
  obtain ⟨pod, -, rfl⟩ := List.mem_map.1 htold
  obtain ⟨y, hy, heviction⟩ := h.exists_eviction hx hevent
  exact (h.asked y hy (by simp [heviction])).exists_uri heviction ..

end Announces

/-- **Exchanges between the announcements of a drain mirror it**, if they announce what they
evict. -/
theorem Announces.mirrored
    {reply : Reply (Session σ) (Except Interruption (Except RebalanceError Unit))}
    {began : ApiExchange} {sent closing : List ApiExchange} {told : List Pod}
    {result : Except EvictionFault Unit}
    (h : Announces api (evictionTask pacing order) order.pods sent told)
    (hlog : reply.state.log = s.log ++ (began :: sent ++ closing))
    (hbegan : began.request = .createEvent (drainStarted order))
    (hclosing : Closing order (.ok result) closing)
    (hanswer : reply.answer = .ok (outcome order result)) :
    Mirrored pacing order s reply (began :: sent ++ closing) := by
  have hanswers : evictionAnswers (began :: sent ++ closing) = evictionAnswers sent :=
    funext fun pod => evictionAnswers_announced hbegan hclosing pod
  have hevicted : wasEvicted (began :: sent ++ closing) = wasEvicted sent :=
    funext fun pod => by rw [wasEvicted, hanswers, wasEvicted]
  have hcloses := closes_drainEnded order result
  cases hclosing with
  | @ended _ ended hended =>
  have hstart : began.event? = some (drainStarted order) := began.event?_of_createEvent hbegan
  have hend : ended.event? = some (drainEnded order result) := ended.event?_of_createEvent hended
  -- the events at both ends are about the node, so nothing that is said about announcements changes
  have hstart_ne (pod : Pod) :
      began.event? ≠ some ((evictionTask pacing order).announcement pod) := by
    rw [hstart]
    exact fun heq => node_ne_announcement rfl pod (Option.some.inj heq)
  have hend_ne (pod : Pod) :
      ended.event? ≠ some ((evictionTask pacing order).announcement pod) := by
    rw [hend]
    exact fun heq => hcloses.ne_announcement _ pod (Option.some.inj heq)
  have hmem {x : ApiExchange} (hx : x ∈ began :: sent ++ [ended]) : x = began ∨ x ∈ sent ∨
      x = ended := by
    simpa using hx
  refine ⟨hlog, ⟨told, drainEnded order result, ?_, ?_, hanswer ▸ hcloses⟩, ?_,
    fun pod hpod hunmoved x hx hevent => ?_, fun x hx event hevent => ?_⟩
  · simp [hstart, hend, h.events]
  · rw [hevicted]
    exact h.told
  · exact (h.sources.cons hstart_ne).append (List.forall_mem_singleton.2 hend_ne)
  · rw [EvictionFailed, hanswers] at hunmoved
    rcases hmem hx with rfl | hx | rfl
    · exact hstart_ne pod hevent
    · exact h.not_unmoved hpod (h.evicted_of_event? hx hevent) hunmoved
    · exact hend_ne pod hevent
  · rcases hmem hx with rfl | hx | rfl
    · obtain rfl := Option.some.inj (hstart.symm.trans hevent)
      exact ApiRequest.exists_uri_of_node ..
    · exact h.exists_uri hx hevent
    · obtain rfl := Option.some.inj (hend.symm.trans hevent)
      exact hcloses.exists_uri

/-- **What a drain announces**, and that its events mirror it if it comes to an end. -/
theorem drain_announces (api : ApiServer σ) (pacing : Pacing) (order : DrainOrder) (s : Session σ)
    (hdistinct : (order.pods.map Pod.address).Nodup) :
    ∃ sent, (drain api pacing order s).state.log = s.log ++ sent ∧
      (∀ result, (drain api pacing order s).answer = .ok result →
        Mirrored pacing order s (drain api pacing order s) sent) ∧
      ∀ why, (drain api pacing order s).answer = .error why → ∃ told : List Pod,
        sent.filterMap ApiExchange.event? =
          drainStarted order :: told.map (evictionTask pacing order).announcement := by
  obtain ⟨sent, told, hlog, hevents, hannounces⟩ :=
    announces_emptyNode api pacing order
      (Session.announce api (drainStarted order) s).state hdistinct
  obtain ⟨began, closing, hlog', hbegan, hclosing, -⟩ := drain_eq rfl rfl hlog
  have hdrain := answer_drain api pacing order s
  refine ⟨_, hlog', ?_⟩
  rcases hempty : (emptyNode api pacing order
    (Session.announce api (drainStarted order) s).state).answer with
    why | result
  · rw [hempty] at hdrain hclosing
    rw [hdrain]
    refine ⟨nofun, fun _ _ => ⟨told, ?_⟩⟩
    cases hclosing with
    | interrupted => simp [began.event?_of_createEvent hbegan, hevents]
  · rw [hempty] at hdrain hclosing
    refine ⟨fun _ _ => (hannounces result hempty).mirrored hlog' hbegan hclosing hdrain,
      fun why hwhy => ?_⟩
    rw [hdrain] at hwhy
    cases hwhy

/-- **A drain comes to an end** exactly if the clock has room for its deadlines, and it does not
stall. -/
theorem exists_answer_iff : (∃ result, (drain api pacing order s).answer = .ok result) ↔
    HasRoom api pacing order (Session.announce api (drainStarted order) s).state ∧
      ¬ Stalls api pacing order s := by
  constructor
  · rintro ⟨result, hresult⟩
    have hstalls : ¬ Stalls api pacing order s := by
      rw [Stalls, hresult]
      exact nofun
    refine ⟨(hasRoom_iff_isOk fun h => hstalls (drain_eq_error_iff.2 h)).2 ?_, hstalls⟩
    rw [answer_drain] at hresult
    rcases hempty : (emptyNode api pacing order
      (Session.announce api (drainStarted order) s).state).answer with
      why | emptied
    · rw [hempty] at hresult
      cases hresult
    · exact ⟨emptied, rfl⟩
  · rintro ⟨hroom, hstalls⟩
    obtain ⟨emptied, hempty⟩ := (hasRoom_iff_isOk fun h => hstalls (drain_eq_error_iff.2 h)).1 hroom
    refine ⟨outcome order emptied, ?_⟩
    rw [answer_drain, hempty]
    rfl

/-- A drain that is mirrored comes to an end. -/
theorem Mirrored.exists_answer
    {reply : Reply (Session σ) (Except Interruption (Except RebalanceError Unit))}
    {sent : List ApiExchange} (h : Mirrored pacing order s reply sent) :
    ∃ result, reply.answer = .ok result := by
  obtain ⟨_, _, -, -, hcloses⟩ := h.events
  generalize reply.answer = answer at hcloses
  cases hcloses <;> exact ⟨_, rfl⟩

/-- **Events mirror drains.** The events of a drain mirror it exactly if it comes to an end: if the
clock has room for its deadlines, and it does not stall. It does not stall if there are pauses
between attempts and between passes. A drain that is interrupted announces its start and evictions,
and not how it ended. -/
theorem drain_mirrored (hdistinct : (order.pods.map Pod.address).Nodup) :
    (0 < pacing.retryInterval.nanos → 0 < pacing.pollInterval.nanos → ¬ Stalls api pacing order s) ∧
    ((∃ sent, Mirrored pacing order s (drain api pacing order s) sent) ↔
      HasRoom api pacing order (Session.announce api (drainStarted order) s).state ∧
        ¬ Stalls api pacing order s) ∧
    ∀ why, (drain api pacing order s).answer = .error why →
      ∃ (sent : List ApiExchange) (told : List Pod),
      (drain api pacing order s).state.log = s.log ++ sent ∧ sent.filterMap ApiExchange.event? =
        drainStarted order :: told.map (evictionTask pacing order).announcement := by
  obtain ⟨sent, hlog, hmirrored, hinterrupted⟩ := drain_announces api pacing order s hdistinct
  refine ⟨drain_ne_stalled, ?_, fun why hwhy => ?_⟩
  · rw [← exists_answer_iff]
    exact ⟨fun ⟨_, h⟩ => h.exists_answer, fun ⟨result, hresult⟩ => ⟨sent, hmirrored result hresult⟩⟩
  · obtain ⟨told, hevents⟩ := hinterrupted why hwhy
    exact ⟨sent, told, hlog, hevents⟩

/-- A pod whose eviction is refused at first is announced once it is evicted, and one whose eviction
is rejected is not. -/
theorem drain_mirrored_web :
    (∃ sent, Mirrored {} webOrder { server := hesitant }
        (drain ScriptedServer.api {} webOrder { server := hesitant }) sent ∧
      sent.filterMap ApiExchange.event? = [drainStarted webOrder,
        (evictionTask {} webOrder).announcement (web "b"),
          (evictionTask {} webOrder).announcement (web "a"),
        ⟨.node "worker", .normal, "DrainSucceeded", "all pods evicted"⟩]) ∧
    ∃ sent, Mirrored {} webOrder { server := forbidding }
        (drain ScriptedServer.api {} webOrder { server := forbidding }) sent ∧
      sent.filterMap ApiExchange.event? = [drainStarted webOrder,
        (evictionTask {} webOrder).announcement (web "b"), ⟨.node "worker", .warning, "DrainFailed",
          (EvictionFault.rejected "default/a" (.fault ⟨"", "Forbidden", 403⟩)).message⟩] := by
  have hdistinct : (webOrder.pods.map Pod.address).Nodup := by decide
  have hmirrors (server : ScriptedServer) (hroom : HasRoom ScriptedServer.api {} webOrder
      (Session.announce ScriptedServer.api (drainStarted webOrder) { server }).state) :
      ∃ sent, Mirrored {} webOrder { server }
        (drain ScriptedServer.api {} webOrder { server }) sent ∧
        (drain ScriptedServer.api {} webOrder { server }).state.log = sent := by
    have hends : ¬ Stalls ScriptedServer.api {} webOrder { server } :=
      (drain_mirrored hdistinct).1 (by decide) (by decide)
    obtain ⟨sent, hmirrored⟩ := (drain_mirrored hdistinct).2.1.2 ⟨hroom, hends⟩
    exact ⟨sent, hmirrored, hmirrored.log⟩
  constructor
  · obtain ⟨_, hmirrored, rfl⟩ :=
      hmirrors hesitant (hasRoom_of_evictions (by decide +kernel) (by decide +kernel))
    exact ⟨_, hmirrored, by with_unfolding_all rfl⟩
  · obtain ⟨_, hmirrored, rfl⟩ :=
      hmirrors forbidding (hasRoom_of_evictions (by decide +kernel) (by decide +kernel))
    exact ⟨_, hmirrored, by with_unfolding_all rfl⟩

/-- An order that gives the pods the longest time to end. -/
def lenientOrder : DrainOrder := { webOrder with gracePeriod := .ofSeconds 18446744073709551615 }

/-- **Not every drain is mirrored**: with the longest time to end, the pods are evicted and
announced, and then the drain is interrupted at the end of the clock. No event says how it ended. -/
theorem not_mirrored_lenient :
    (lenientOrder.pods.map Pod.address).Nodup ∧ 0 < ({} : Pacing).retryInterval.nanos ∧
      0 < ({} : Pacing).pollInterval.nanos ∧
      (drain ScriptedServer.api {} lenientOrder { server := {} }).answer = .error .clockExhausted ∧
      (drain ScriptedServer.api {} lenientOrder { server := {} }).state.log.filterMap
        ApiExchange.event? =
        [drainStarted lenientOrder, (evictionTask {} lenientOrder).announcement (web "a"),
          (evictionTask {} lenientOrder).announcement (web "b")] ∧
      ¬ ∃ sent, Mirrored {} lenientOrder { server := {} }
        (drain ScriptedServer.api {} lenientOrder { server := {} }) sent := by
  have hanswer : (drain ScriptedServer.api {} lenientOrder { server := {} }).answer =
      .error .clockExhausted := by with_unfolding_all rfl
  refine ⟨by decide, by decide, by decide, hanswer, by with_unfolding_all rfl,
    fun ⟨_, hmirrored⟩ => ?_⟩
  obtain ⟨result, hresult⟩ := hmirrored.exists_answer
  rw [hanswer] at hresult
  cases hresult

end ClusterApi

end SpotRebalance
