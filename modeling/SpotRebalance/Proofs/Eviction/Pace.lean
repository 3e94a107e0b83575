import SpotRebalance.Proofs.Eviction.ClockRange
import SpotRebalance.Proofs.Eviction.Polling
import SpotRebalance.Proofs.Eviction.Timetable

/-! # The pace of a drain

If the server answers without delay, a drain **keeps its pace** in some rhythm (`Paced`): each
eviction keeps to its course, then the pods are looked up at known times, and the number of
evictions and look-ups is bounded by the timeouts and the pauses. It does so in the rhythm of timers
if the clock has room for all its deadlines (`HasRoom`, `drain_paced`).

The rhythm is even, with pauses rounded up, if the drain starts at a whole millisecond. It is not
the one of the pauses themselves unless they are whole milliseconds too (`not_paced_brisk`). -/

namespace SpotRebalance.ClusterApi

universe u

open Duration (clockEnd millisecond OnBeat)

variable {σ : Type u} {api : ApiServer σ} {pacing : Pacing} {ρ : Rhythm} {order : DrainOrder}
  {s : Session σ}

/-- How long the pods of a drain are waited for. -/
def departureTime (pacing : Pacing) (order : DrainOrder) : Duration :=
  order.gracePeriod + pacing.headroom

/-- **How a node is emptied** in a rhythm: what is sent for the evictions, and after them for the
look-ups, what comes of it and when. -/
inductive Emptying (pacing : Pacing) (ρ : Rhythm) (order : DrainOrder) :
    List ApiExchange → List ApiExchange → Except EvictionFault Unit → Duration → Prop where
  /-- An eviction fails. The pods are not looked up. -/
  | failed {evicted : List ApiExchange} {fault : EvictionFault} {endedAt : Duration}
      {courses : List EvictionCourse}
      (htimetable : Timetable (evictionTask pacing order) ρ order.pods evicted
        (.error fault) endedAt courses) :
      Emptying pacing ρ order evicted [] (.error fault) endedAt
  /-- All evictions succeed, and the pods are looked up from then on. -/
  | waited {evicted looked : List ApiExchange} {result : Except EvictionFault Unit}
      {evictedAt endedAt : Duration} {courses : List EvictionCourse}
      (htimetable : Timetable (evictionTask pacing order) ρ order.pods evicted
        (.ok ()) evictedAt courses)
      (hpolls : Deletion.Polls order.node.name order.pods ρ pacing.pollInterval
        (departureTime pacing order) evictedAt looked result endedAt) :
      Emptying pacing ρ order evicted looked result endedAt

/-- **A drain keeps its pace** in a rhythm. -/
structure Paced (pacing : Pacing) (ρ : Rhythm) (order : DrainOrder) (s : Session σ)
    (reply : Reply (Session σ) (Except Interruption (Except RebalanceError Unit)))
    (sent : List ApiExchange) : Prop where
  /-- The log holds what was sent. -/
  log : reply.state.log = s.log ++ sent
  /-- The node is emptied between two announcements, and the drain answers what comes of that. -/
  emptying : ∃ began evicted looked ended result, sent = began :: (evicted ++ looked) ++ [ended] ∧
    began.request = .createEvent (drainStarted order) ∧
    ended.request = .createEvent (drainEnded order result) ∧
    Emptying pacing ρ order evicted looked result reply.state.clock ∧
    reply.answer = .ok (outcome order result)
  /-- No pod is evicted more often than the time for an eviction allows. -/
  evictions : sent.countP (·.eviction?.isSome) ≤
    order.pods.length * max 1 (order.evictionTimeout.nanos ⌈/⌉ pacing.retryInterval.nanos)
  /-- No pod is looked up more often than the time to depart allows. -/
  lookups : sent.countP (·.lookup?.isSome) ≤
    order.pods.length * ((departureTime pacing order).nanos ⌈/⌉ pacing.pollInterval.nanos + 1)

/-- **The clock has room for a drain**: it reaches the deadlines of all workers, and that of the
wait for deletion if the pods are waited for. -/
structure HasRoom (api : ApiServer σ) (pacing : Pacing) (order : DrainOrder)
    (s : Session σ) : Prop where
  /-- It reaches the end of the time for each eviction. -/
  workers : ∀ steps ≤ Board.mostSteps (evictionTask pacing order) order.pods,
    ∀ w ∈ (boardAfter api pacing order steps s).active, w.deadline ≤ clockEnd
  /-- It reaches the end of the time to depart. -/
  departure : (evictions api pacing order s).result = .ok (.ok ()) →
    (evictions api pacing order s).session.clock + departureTime pacing order ≤ clockEnd

/-! ## Emptying the node -/

namespace Emptying

variable {evicted looked : List ApiExchange} {result : Except EvictionFault Unit}
  {endedAt : Duration}

/-- **The number of evictions is bounded.** -/
theorem countP_eviction_le (h : Emptying pacing ρ order evicted looked result endedAt)
    (hretry : 0 < pacing.retryInterval.nanos) :
    (evicted ++ looked).countP (·.eviction?.isSome) ≤
      order.pods.length * max 1 (order.evictionTimeout.nanos ⌈/⌉ pacing.retryInterval.nanos) := by
  cases h with
  | failed htimetable =>
    rw [List.append_nil]
    exact htimetable.countP_eviction_le hretry
  | waited htimetable hpolls =>
    rw [List.countP_append, hpolls.countP_eviction, Nat.add_zero]
    exact htimetable.countP_eviction_le hretry

/-- **The number of look-ups is bounded.** -/
theorem countP_lookup_le (h : Emptying pacing ρ order evicted looked result endedAt)
    (hpoll : 0 < pacing.pollInterval.nanos) :
    (evicted ++ looked).countP (·.lookup?.isSome) ≤
      order.pods.length *
        ((departureTime pacing order).nanos ⌈/⌉ pacing.pollInterval.nanos + 1) := by
  cases h with
  | failed htimetable =>
    rw [List.append_nil, htimetable.countP_lookup]
    exact Nat.zero_le _
  | waited htimetable hpolls =>
    rw [List.countP_append, htimetable.countP_lookup, Nat.zero_add]
    exact hpolls.countP_lookup_le hpoll

/-- **Pods are looked up after a number of pauses**, from one reading on. -/
theorem exists_sentAt (h : Emptying pacing ρ order evicted looked result endedAt) :
    ∃ start, ∀ x ∈ evicted ++ looked, x.lookup?.isSome →
      ∃ k, x.sentAt = ρ.after pacing.pollInterval start k := by
  have hevicted {result : Except EvictionFault Unit} {evictedAt : Duration}
      {courses : List EvictionCourse}
      (htimetable : Timetable (evictionTask pacing order) ρ order.pods evicted result evictedAt
        courses) :
      ∀ x ∈ evicted, ¬ x.lookup?.isSome := List.countP_eq_zero.1 htimetable.countP_lookup
  cases h with
  | failed htimetable =>
    refine ⟨endedAt, fun x hx hlookup => ?_⟩
    rw [List.append_nil] at hx
    exact absurd hlookup (hevicted htimetable x hx)
  | @waited _ _ evictedAt _ _ htimetable hpolls =>
    refine ⟨evictedAt, fun x hx hlookup => ?_⟩
    rcases List.mem_append.1 hx with hx | hx
    · exact absurd hlookup (hevicted htimetable x hx)
    · exact hpolls.exists_sentAt x hx

end Emptying

/-- **The clock has room for a drain** if it has room for both spans when the evictions end. -/
theorem hasRoom_of_evictions
    (heviction : (evictions api pacing order s).session.clock + order.evictionTimeout ≤ clockEnd)
    (hdeparture : (evictions api pacing order s).session.clock + departureTime pacing order ≤
      clockEnd) :
    HasRoom api pacing order s where
  workers _ hsteps w hw := Nat.le_trans (deadline_le_evictions hsteps api s w hw) heviction
  departure _ := hdeparture

/-- **All workers leave** if the clock has room for their deadlines. -/
theorem HasRoom.active_evictions (h : HasRoom api pacing order s)
    (hretry : 0 < pacing.retryInterval.nanos) :
    (evictions api pacing order s).active = [] := by
  refine (ended_evictions hretry).resolve_right fun hbroken => ?_
  obtain ⟨w, hw, hlate⟩ := hbroken.exists_late
  exact hlate (h.workers _ (Nat.le_refl _) w hw)

/-- A pacing with other pauses. -/
def withPauses (pacing : Pacing) (retry poll : Duration) : Pacing :=
  { pacing with retryInterval := retry, pollInterval := poll }

theorem evictionTask_withPauses (pacing : Pacing) (retry poll : Duration) (order : DrainOrder) :
    evictionTask (withPauses pacing retry poll) order =
      { evictionTask pacing order with retryInterval := retry } := rfl

/-- Whatever the pauses, the pods are waited for as long. -/
theorem departureTime_withPauses (pacing : Pacing) (retry poll : Duration) (order : DrainOrder) :
    departureTime (withPauses pacing retry poll) order = departureTime pacing order := rfl

/-- **The pacing in whole milliseconds**: its pauses are rounded up. -/
def wholePacing (pacing : Pacing) : Pacing :=
  withPauses pacing pacing.retryInterval.wholeMillis pacing.pollInterval.wholeMillis

/-- **All evictions keep to their courses**, if the clock has room, and start and end at readings of
the drain. -/
theorem timetable_evictions (hprompt : api.Prompt) (hretry : 0 < pacing.retryInterval.nanos)
    (hroom : HasRoom api pacing order s) :
    ∃ sent courses result, (evictions api pacing order s).session.log = s.log ++ sent ∧
      (evictions api pacing order s).result = .ok result ∧
      Timetable (evictionTask pacing order) .timers order.pods sent result
        (evictions api pacing order s).session.clock courses ∧
      (∀ c ∈ courses, OnBeat s.clock c.start) ∧
      OnBeat s.clock (evictions api pacing order s).session.clock := by
  have hended := hroom.active_evictions hretry
  have hstart := Board.scheduled_start (evictionTask pacing order) pacing.concurrency order.pods s
  obtain ⟨sent, hscheduled⟩ :=
    hstart.run hprompt hretry (Board.mostSteps (evictionTask pacing order) order.pods)
  obtain ⟨courses, htimetable, hstarts⟩ := hscheduled.timetable pacing.concurrency_pos hended
  exact ⟨sent, courses, _, hscheduled.log, Board.result_eq_ok_iff.2 ⟨hended, rfl⟩,
    htimetable, hstarts, hscheduled.clock⟩

/-- The pods are waited for if there is time for that. -/
theorem awaitDeparture_eq {reading : Duration}
    (htime : reading + departureTime pacing order ≤ clockEnd) :
    awaitDeparture api pacing order =
      Deletion.await api order.node.name order.pods pacing.pollInterval
        (departureTime pacing order) := by
  rw [awaitDeparture]
  cases hsum : order.gracePeriod.add? pacing.headroom with
  | none => exact absurd htime (Duration.add?_eq_none hsum _)
  | some sum => rw [Duration.add?_eq_some hsum, departureTime]

/-- **A node is emptied in the rhythm of timers**, if the clock has room. It is even if that begins
at a whole millisecond. -/
theorem emptying_emptyNode (hprompt : api.Prompt) (hretry : 0 < pacing.retryInterval.nanos)
    (hpoll : 0 < pacing.pollInterval.nanos) (hroom : HasRoom api pacing order s) :
    ∃ evicted looked result,
      (emptyNode api pacing order s).state.log = s.log ++ (evicted ++ looked) ∧
      (emptyNode api pacing order s).answer = .ok result ∧
      Emptying pacing .timers order evicted looked result
        (emptyNode api pacing order s).state.clock ∧
      (millisecond ∣ s.clock.nanos → Emptying (wholePacing pacing) .even order evicted looked result
        (emptyNode api pacing order s).state.clock) := by
  obtain ⟨evicted, courses, result, hlog, hresult, htimetable, hstarts, hend⟩ :=
    timetable_evictions hprompt hretry hroom
  have heven (hbegan : millisecond ∣ s.clock.nanos) :
      Timetable (evictionTask (wholePacing pacing) order) .even order.pods evicted result
        (evictions api pacing order s).session.clock courses := by
    rw [wholePacing, evictionTask_withPauses]
    exact htimetable.even hretry fun c hc => (hstarts c hc).dvd hbegan
  rcases emptyNode_cases api pacing order s with
    ⟨why, hwhy, -, -⟩ | ⟨fault, hfault, hanswer, hstate⟩ | ⟨hok, hanswer, hstate⟩
  · rw [hresult] at hwhy
    cases hwhy
  · obtain rfl : result = .error fault := Except.ok.inj (hresult.symm.trans hfault)
    rw [hstate, hanswer]
    refine ⟨evicted, [], .error fault, ?_, rfl, .failed htimetable, fun hbegan =>
      .failed (heven hbegan)⟩
    rw [List.append_nil, hlog]
  · obtain rfl : result = .ok () := Except.ok.inj (hresult.symm.trans hok)
    have htime := hroom.departure hok
    have hwait : awaitDeparture api pacing order = Deletion.await api order.node.name order.pods
        pacing.pollInterval (departureTime pacing order) := awaitDeparture_eq htime
    obtain ⟨looked, result, hlooked, hanswer', hpolls⟩ :=
      Deletion.polls_await hprompt order.node.name order.pods hpoll htime
    rw [hstate, hanswer, hwait]
    refine ⟨evicted, looked, result, ?_, hanswer', .waited htimetable hpolls, fun hbegan => ?_⟩
    · rw [hlooked, hlog, List.append_assoc]
    · refine .waited (heven hbegan) ?_
      rw [wholePacing, departureTime_withPauses]
      exact hpolls.even hpoll (hend.dvd hbegan)

/-! ## Drains -/

/-- **A drain that empties the node between two announcements keeps its pace.** -/
theorem Emptying.paced
    {reply : Reply (Session σ) (Except Interruption (Except RebalanceError Unit))}
    {began ended : ApiExchange} {evicted looked : List ApiExchange}
    {result : Except EvictionFault Unit}
    (h : Emptying pacing ρ order evicted looked result reply.state.clock)
    (hretry : 0 < pacing.retryInterval.nanos) (hpoll : 0 < pacing.pollInterval.nanos)
    (hlog : reply.state.log = s.log ++ (began :: (evicted ++ looked) ++ [ended]))
    (hbegan : began.request = .createEvent (drainStarted order))
    (hended : ended.request = .createEvent (drainEnded order result))
    (hanswer : reply.answer = .ok (outcome order result)) :
    Paced pacing ρ order s reply (began :: (evicted ++ looked) ++ [ended]) := by
  -- the announcements evict nobody and look up nobody
  have hquiet {p : ApiExchange → Bool} (hbegan : p began = false) (hended : p ended = false) :
      (began :: (evicted ++ looked) ++ [ended]).countP p = (evicted ++ looked).countP p := by
    simp [hbegan, hended]
  refine ⟨hlog, ⟨began, evicted, looked, ended, result, rfl, hbegan, hended, h, hanswer⟩, ?_, ?_⟩
  · rw [hquiet (by simp [began.eviction?_of_createEvent hbegan])
      (by simp [ended.eviction?_of_createEvent hended])]
    exact h.countP_eviction_le hretry
  · rw [hquiet (by simp [began.lookup?_of_createEvent hbegan])
      (by simp [ended.lookup?_of_createEvent hended])]
    exact h.countP_lookup_le hpoll

/-- A server that answers as another one, without its delays. -/
def promptly (api : ApiServer σ) : ApiServer σ :=
  ⟨fun request s => { api.handle request s with took := ⟨0⟩ }⟩

theorem prompt_promptly (api : ApiServer σ) : (promptly api).Prompt := fun _ _ => rfl

/-- **A drain that keeps its pace looks up the pods after a number of pauses**, from one reading
on. -/
theorem Paced.exists_sentAt
    {reply : Reply (Session σ) (Except Interruption (Except RebalanceError Unit))}
    {sent : List ApiExchange} (h : Paced pacing ρ order s reply sent) :
    ∃ start, ∀ x ∈ sent, x.lookup?.isSome →
      ∃ k, x.sentAt = ρ.after pacing.pollInterval start k := by
  obtain ⟨began, evicted, looked, ended, result, rfl, hbegan, hended, hemptying, -⟩ := h.emptying
  obtain ⟨start, hstart⟩ := hemptying.exists_sentAt
  refine ⟨start, fun x hx hlookup => ?_⟩
  -- the announcements look up nobody
  have hx' : x = began ∨ x ∈ evicted ++ looked ∨ x = ended := by simpa [or_assoc] using hx
  rcases hx' with rfl | hx | rfl
  · rw [x.lookup?_of_createEvent hbegan] at hlookup
    cases hlookup
  · exact hstart x hx hlookup
  · rw [x.lookup?_of_createEvent hended] at hlookup
    cases hlookup

/-- A pacing with pauses of a millisecond and a half. -/
def briskPacing : Pacing :=
  { (default : Pacing) with
    retryInterval := ⟨1500000⟩, pollInterval := ⟨1500000⟩, headroom := ⟨3000000⟩ }

/-- An order that leaves little time. -/
def briskOrder : DrainOrder :=
  { webOrder with gracePeriod := ⟨3000000⟩, evictionTimeout := ⟨6000000⟩ }

end SpotRebalance.ClusterApi
