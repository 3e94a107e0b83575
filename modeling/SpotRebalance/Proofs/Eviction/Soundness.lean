import SpotRebalance.ClusterApi.Scripted
import SpotRebalance.Eviction.Drain
import SpotRebalance.Proofs.Eviction.Completion
import SpotRebalance.Proofs.Eviction.Deletion
import SpotRebalance.Proofs.Eviction.Departures

/-! # Sound drains

A drain that succeeds has emptied the node: each pod of the order was accepted for eviction exactly
once, and afterwards one pass over all pods found each of them departed (`Drained`). If an eviction
fails, the drain fails with a fault of one of the pods, every other pod was attempted all the same,
and no pod was looked up (`GivenUp`). In either case only pods of the order are evicted
(`drain_sound`).

The server may answer whatever it likes, and as late as it likes. That all workers leave the board
is proved for drains that pause between attempts and are not interrupted at the end of the clock
(`completes_of_pause`). -/

namespace SpotRebalance.ClusterApi

universe u

variable {σ : Type u} {api : ApiServer σ} {pacing : Pacing} {order : DrainOrder} {s : Session σ}

/-! ## The parts of a drain -/

/-- **A node is emptied in one of three ways.** The evictions are interrupted; or they come to a
fault; or they do not, and the pods are waited for. -/
theorem emptyNode_cases (api : ApiServer σ) (pacing : Pacing) (order : DrainOrder) (s : Session σ) :
    (∃ why, (evictions api pacing order s).result = .error why ∧
        (emptyNode api pacing order s).answer = .error why ∧
        (emptyNode api pacing order s).state = (evictions api pacing order s).session) ∨
      (∃ fault, (evictions api pacing order s).result = .ok (.error fault) ∧
        (emptyNode api pacing order s).answer = .ok (.error fault) ∧
        (emptyNode api pacing order s).state = (evictions api pacing order s).session) ∨
      (evictions api pacing order s).result = .ok (.ok ()) ∧
        (emptyNode api pacing order s).answer =
          (awaitDeparture api pacing order (evictions api pacing order s).session).answer ∧
        (emptyNode api pacing order s).state =
          (awaitDeparture api pacing order (evictions api pacing order s).session).state := by
  have hevict : evictAll api pacing order s = ⟨(evictions api pacing order s).result,
      ⟨(evictions api pacing order s).session.clock.nanos - s.clock.nanos⟩,
      (evictions api pacing order s).session⟩ := rfl
  rcases hresult : (evictions api pacing order s).result with why | fault | done
  · rw [hresult] at hevict
    rw [emptyNode, Exchange.andThen_error hevict]
    exact .inl ⟨why, rfl, rfl, rfl⟩
  · rw [hresult] at hevict
    rw [emptyNode, Exchange.andThen_ok hevict]
    exact .inr (.inl ⟨fault, rfl, rfl, rfl⟩)
  · rw [hresult] at hevict
    rw [emptyNode, Exchange.andThen_ok hevict, Reply.answer_delayed, Reply.state_delayed]
    exact .inr (.inr ⟨rfl, rfl, rfl⟩)

/-- The board of a drain is sound. -/
theorem sound_evictions (api : ApiServer σ) (pacing : Pacing) (s : Session σ)
    (hdistinct : (order.pods.map Pod.address).Nodup) :
    ∃ sent, Board.Sound (evictionTask pacing order) pacing.concurrency order.pods s.log sent
      (evictions api pacing order s) :=
  (Board.sound_start ..).run hdistinct _

/-- What the board of a drain sends is asked of the server. -/
theorem asked_evictions (api : ApiServer σ) (pacing : Pacing) (order : DrainOrder) (s : Session σ) :
    ∃ sent, (evictions api pacing order s).session.log = s.log ++ sent ∧ ∀ x ∈ sent, api.Asked x :=
  Board.asked_run ..

/-- All workers leave the board of a drain that pauses between attempts, unless the work breaks
off. -/
theorem ended_evictions (hretry : 0 < pacing.retryInterval.nanos) :
    (evictions api pacing order s).active = [] ∨ (evictions api pacing order s).BrokenOff :=
  Board.ended_run_mostSteps hretry ..

/-- The wait for the departure of the pods only looks them up. -/
theorem watched_awaitDeparture (api : ApiServer σ) (pacing : Pacing) (order : DrainOrder)
    (s : Session σ) :
    ∃ sent, Deletion.Watched order.node.name order.pods s sent
      (awaitDeparture api pacing order s).answer
      (awaitDeparture api pacing order s).state := by
  rw [awaitDeparture]
  cases order.gracePeriod.add? pacing.headroom with
  | none => exact ⟨[], (List.append_nil _).symm, by simp, nofun⟩
  | some timeout => exact Deletion.watched_await ..

/-! ## What a drain comes to -/

/-- **A node was drained**, as the log shows. -/
structure Drained (order : DrainOrder) (sent : List ApiExchange) : Prop where
  /-- Of the answers to the evictions of each pod exactly one accepts. -/
  accepted : ∀ pod ∈ order.pods, (evictionAnswers sent pod).countP acceptsEviction = 1
  /-- There is one pass over all pods that found each departed, and it began when the last eviction
  was answered. -/
  polled : ∃ earlier looked later, sent = earlier ++ looked ++ later ∧
    List.Forall₂ (fun pod x => ∃ found, x.lookup? = some (pod, found) ∧
      Deletion.Departed order.node.name pod found) order.pods looked ∧
    (∀ x ∈ looked ++ later, x.eviction? = none) ∧
    ∀ x ∈ earlier, x.eviction?.isSome → ∀ y ∈ looked, x.answeredAt.nanos ≤ y.sentAt.nanos

/-- **A drain was given up** for a fault, as the log shows. -/
structure GivenUp (api : ApiServer σ) (task : EvictionTask) (order : DrainOrder)
    (sent : List ApiExchange) (fault : EvictionFault) : Prop where
  /-- The fault is that of the eviction of one of the pods. -/
  fault : ∃ pod ∈ order.pods, fault.Concerns task pod (evictionAnswers sent pod)
  /-- Every pod was attempted all the same. A request that has a URI was given to the server. -/
  attempted : ∀ pod ∈ order.pods, ∃ x ∈ sent, x.request = task.request pod ∧
    ∀ uri, (task.request pod).uri = .ok uri → api.Handled x
  /-- No pod was looked up. -/
  unpolled : ∀ x ∈ sent, x.lookup? = none

/-- **A node whose pods were all accepted, and found departed, was drained.** -/
theorem drained_of_watched {task : EvictionTask} {slots : Nat} {b : Board σ}
    {evicted watched : List ApiExchange} {s' : Session σ}
    (hsound : Board.Sound task slots order.pods s.log evicted b) (hslots : 0 < slots)
    (hresult : b.result = .ok (.ok ()))
    (hwatched : Deletion.Watched order.node.name order.pods b.session watched (.ok (.ok ())) s') :
    Drained order (evicted ++ watched) := by
  obtain ⟨haccepted, hanswered⟩ := hsound.of_result_ok hslots hresult
  obtain ⟨passes, looked, rfl, hlooked, hlater⟩ := hwatched.final rfl
  have hquiet : ∀ x ∈ passes ++ looked, x.eviction? = none := hwatched.eviction?_eq_none
  refine ⟨fun pod hpod => ?_, evicted ++ passes, looked, [], by simp, hlooked, ?_, ?_⟩
  · rw [evictionAnswers_append, evictionAnswers_eq_nil_of_quiet hquiet, List.append_nil]
    exact haccepted pod hpod
  · intro x hx
    rw [List.append_nil] at hx
    exact hquiet x (List.mem_append_right _ hx)
  · intro x hx hevicted y hy
    rcases List.mem_append.1 hx with hx | hx
    · exact Nat.le_trans (hanswered x hx) (hlater y hy)
    · rw [hquiet x (List.mem_append_left _ hx)] at hevicted
      cases hevicted

/-- **What emptying a node sends and comes to.** -/
theorem emptyNode_sound (api : ApiServer σ) (pacing : Pacing) (order : DrainOrder) (s : Session σ)
    (hdistinct : (order.pods.map Pod.address).Nodup) :
    ∃ sent, (emptyNode api pacing order s).state.log = s.log ++ sent ∧
      (∀ x ∈ sent, ∀ pod answer, x.eviction? = some (pod, answer) → pod ∈ order.pods) ∧
      ((emptyNode api pacing order s).answer = .ok (.ok ()) → Drained order sent) ∧
      ((evictions api pacing order s).active = [] → ∀ pod ∈ order.pods, EvictionFailed sent pod →
        ∃ fault, (emptyNode api pacing order s).answer = .ok (.error fault) ∧
          GivenUp api (evictionTask pacing order) order sent fault) := by
  obtain ⟨evicted, hsound⟩ := sound_evictions api pacing s hdistinct
  obtain ⟨evicted', hlog, hasked⟩ := asked_evictions api pacing order s
  obtain rfl := List.append_cancel_left (hsound.log.symm.trans hlog)
  have hslots := pacing.concurrency_pos
  have hlisted : ∀ x ∈ evicted, ∀ pod answer, x.eviction? = some (pod, answer) → pod ∈ order.pods :=
    fun x hx pod answer hpod => (hsound.request_eq hx hpod).1
  rcases emptyNode_cases api pacing order s with
    ⟨why, hresult, hanswer, hstate⟩ | ⟨fault, hresult, hanswer, hstate⟩ | ⟨hresult, hanswer, hstate⟩
  · -- the board was interrupted, so it still has workers
    rw [hanswer, hstate]
    refine ⟨evicted, hlog, hlisted, nofun, fun hended => ?_⟩
    rw [Board.result_eq_ok_iff.2 ⟨hended, rfl⟩] at hresult
    cases hresult
  · -- the board came to a fault, and the pods are not waited for
    rw [hanswer, hstate]
    refine ⟨evicted, hlog, hlisted, nofun, ?_⟩
    intro hended pod hpod hfailed
    obtain ⟨fault', hfault, hconcerns⟩ := hsound.result_eq_error hslots hended hpod hfailed
    rw [hresult] at hfault
    cases hfault
    refine ⟨fault, rfl, hconcerns, fun other hother => ?_, hsound.lookup?_eq_none⟩
    obtain ⟨x, hx, hrequest⟩ :=
      hsound.exists_request hdistinct hother (hsound.attempted hslots hended hother)
    exact ⟨x, hx, hrequest, fun uri huri => (hasked x hx).handled (by rw [hrequest]; exact huri)⟩
  · -- the board came to no fault, so only look-ups follow
    rw [hanswer, hstate]
    obtain ⟨watched, hwatched⟩ :=
      watched_awaitDeparture api pacing order (evictions api pacing order s).session
    have hquiet := hwatched.eviction?_eq_none
    refine ⟨evicted ++ watched, ?_, fun x hx pod answer hpod => ?_, fun hok => ?_,
      fun _ pod hpod hfailed => ?_⟩
    · rw [hwatched.log, hlog, List.append_assoc]
    · rcases List.mem_append.1 hx with hx | hx
      · exact hlisted x hx pod answer hpod
      · rw [hquiet x hx] at hpod
        cases hpod
    · rw [hok] at hwatched
      exact drained_of_watched hsound hslots hresult hwatched
    · -- the board came to no fault, so every pod was accepted
      have haccepted := (hsound.of_result_ok hslots hresult).1 pod hpod
      rw [EvictionFailed, evictionAnswers_append, evictionAnswers_eq_nil_of_quiet hquiet,
        List.append_nil] at hfailed
      rw [hsound.not_accepted hpod hfailed] at haccepted
      cases haccepted

/-! ## Whole drains -/

/-- **What closes a drain**: one announcement if it comes to an end, and nothing if it is
interrupted. -/
inductive Closing (order : DrainOrder) :
    Except Interruption (Except EvictionFault Unit) → List ApiExchange → Prop where
  /-- It comes to an end. -/
  | ended {result : Except EvictionFault Unit} {x : ApiExchange}
      (hrequest : x.request = .createEvent (drainEnded order result)) :
        Closing order (.ok result) [x]
  /-- It is interrupted. -/
  | interrupted {why : Interruption} : Closing order (.error why) []

/-- **A drain answers what comes of emptying the node.** -/
theorem answer_drain (api : ApiServer σ) (pacing : Pacing) (order : DrainOrder) (s : Session σ) :
    (drain api pacing order s).answer =
      (emptyNode api pacing order (Session.announce api (drainStarted order) s).state).answer.map
        (outcome order) := by
  rcases hstart : Session.announce api (drainStarted order) s with ⟨⟨⟩, took, s₁⟩
  rcases hempty : emptyNode api pacing order s₁ with ⟨why | result, wait, s₂⟩
  · rw [drain, Exchange.bind_eq hstart, Exchange.andThen_error hempty]
    rfl
  · rw [drain, Exchange.bind_eq hstart, Exchange.andThen_ok hempty]
    rfl

/-- **A drain empties the node between announcements.** -/
theorem drain_eq {started : Session σ}
    {emptied : Reply (Session σ) (Except Interruption (Except EvictionFault Unit))}
    {sent : List ApiExchange}
    (hstarted : (Session.announce api (drainStarted order) s).state = started)
    (hemptied : emptyNode api pacing order started = emptied)
    (hlog : emptied.state.log = started.log ++ sent) :
    ∃ began closing, (drain api pacing order s).state.log = s.log ++ (began :: sent ++ closing) ∧
      began.request = .createEvent (drainStarted order) ∧ Closing order emptied.answer closing ∧
      ∀ result, emptied.answer = .ok result →
        (drain api pacing order s).state =
          (Session.announce api (drainEnded order result) emptied.state).state := by
  rcases hstart : Session.announce api (drainStarted order) s with ⟨⟨⟩, took, s₁⟩
  obtain rfl : s₁ = started := by rw [← hstarted, hstart]
  rcases emptied with ⟨answer, wait, s₂⟩
  obtain ⟨-, began, hbeganLog, hbegan⟩ := Session.announce_eq hstart
  cases answer with
  | error why =>
    rw [drain, Exchange.bind_eq hstart, Exchange.andThen_error hemptied]
    refine ⟨began, [], ?_, hbegan, .interrupted, nofun⟩
    simp only at hlog
    simp [hlog, hbeganLog]
  | ok result =>
    rcases hend : Session.announce api (drainEnded order result) s₂ with ⟨⟨⟩, took', s₃⟩
    obtain ⟨-, ended, hendedLog, hended⟩ := Session.announce_eq hend
    rw [drain, Exchange.bind_eq hstart, Exchange.andThen_ok hemptied, Exchange.map_eq hend]
    refine ⟨began, [ended], ?_, hbegan, .ended hended, ?_⟩
    · simp only at hlog
      simp [hendedLog, hlog, hbeganLog]
    · rintro _ ⟨⟩
      rw [hend]
      rfl

section Announced

variable {began : ApiExchange} {sent closing : List ApiExchange} {first : ClusterEvent}
  {answer : Except Interruption (Except EvictionFault Unit)}
  (hbegan : began.request = .createEvent first) (hclosing : Closing order answer closing)

include hclosing

/-- What closes a drain are announcements. -/
theorem Closing.forall_event : ∀ x ∈ closing, ∃ event, x.request = .createEvent event := by
  cases hclosing with
  | ended hrequest => exact List.forall_mem_singleton.2 ⟨_, hrequest⟩
  | interrupted => simp

/-- It evicts nobody. -/
theorem Closing.eviction?_eq_none : ∀ x ∈ closing, x.eviction? = none := by
  intro x hx
  obtain ⟨event, hevent⟩ := hclosing.forall_event x hx
  exact x.eviction?_of_createEvent hevent

/-- It looks up nobody. -/
theorem Closing.lookup?_eq_none : ∀ x ∈ closing, x.lookup? = none := by
  intro x hx
  obtain ⟨event, hevent⟩ := hclosing.forall_event x hx
  exact x.lookup?_of_createEvent hevent

include hbegan

/-- Announcements answer no eviction. -/
theorem evictionAnswers_announced (pod : Pod) :
    evictionAnswers (began :: sent ++ closing) pod = evictionAnswers sent pod := by
  have hfirst := evictionAnswers_eq_nil_of_quiet
    (List.forall_mem_singleton.2 (began.eviction?_of_createEvent hbegan)) pod
  rw [← List.singleton_append, evictionAnswers_append, evictionAnswers_append, hfirst,
    evictionAnswers_eq_nil_of_quiet hclosing.eviction?_eq_none, List.nil_append, List.append_nil]

/-- A node that was drained was drained between announcements. -/
theorem Drained.announced (h : Drained order sent) : Drained order (began :: sent ++ closing) where
  accepted pod hpod := by
    rw [evictionAnswers_announced hbegan hclosing]
    exact h.accepted pod hpod
  polled := by
    obtain ⟨earlier, looked, later, rfl, hlooked, hquiet, hlate⟩ := h.polled
    refine ⟨began :: earlier, looked, later ++ closing, by simp, hlooked, ?_, ?_⟩
    · rw [← List.append_assoc]
      exact List.forall_mem_append.2 ⟨hquiet, hclosing.eviction?_eq_none⟩
    · refine List.forall_mem_cons.2 ⟨fun hevicted => ?_, hlate⟩
      rw [began.eviction?_of_createEvent hbegan] at hevicted
      cases hevicted

/-- A drain that was given up was given up between announcements. -/
theorem GivenUp.announced {task : EvictionTask} {fault : EvictionFault}
    (h : GivenUp api task order sent fault) :
    GivenUp api task order (began :: sent ++ closing) fault where
  fault := by
    obtain ⟨pod, hpod, hconcerns⟩ := h.fault
    refine ⟨pod, hpod, ?_⟩
    rw [evictionAnswers_announced hbegan hclosing]
    exact hconcerns
  attempted pod hpod := by
    obtain ⟨x, hx, hattempt⟩ := h.attempted pod hpod
    exact ⟨x, by simp [hx], hattempt⟩
  unpolled :=
    List.forall_mem_cons.2 ⟨began.lookup?_of_createEvent hbegan,
      List.forall_mem_append.2 ⟨h.unpolled, hclosing.lookup?_eq_none⟩⟩

end Announced

/-- **All evictions of a drain come to an end.** -/
def Completes (api : ApiServer σ) (pacing : Pacing) (order : DrainOrder) (s : Session σ) : Prop :=
  (evictions api pacing order (Session.announce api (drainStarted order) s).state).active = []

/-- If there are pauses between attempts, all evictions come to an end, unless the clock is
exhausted. -/
theorem completes_of_pause (hretry : 0 < pacing.retryInterval.nanos) :
    Completes api pacing order s ∨ (drain api pacing order s).answer = .error .clockExhausted := by
  refine (ended_evictions hretry).imp_right fun hbroken => ?_
  have hresult := Board.result_eq_clockExhausted_iff.2 hbroken
  rw [answer_drain]
  rcases emptyNode_cases api pacing order (Session.announce api (drainStarted order) s).state with
    ⟨why, hwhy, hanswer, -⟩ | ⟨fault, hfault, -⟩ | ⟨hdone, -⟩
  · rw [hresult] at hwhy
    cases hwhy
    rw [hanswer]
    rfl
  · rw [hresult] at hfault
    cases hfault
  · rw [hresult] at hdone
    cases hdone

/-- **Drains are sound.** Whatever the server answers, only pods of the order are evicted. A drain
that succeeds has drained the node. If all evictions come to an end, and one of them fails, the
drain fails with such a fault, every pod was attempted, and none was looked up. They do come to an
end if there are pauses between attempts, unless the drain is interrupted at the end of the
clock. -/
theorem drain_sound (api : ApiServer σ) (pacing : Pacing) (order : DrainOrder) (s : Session σ)
    (hdistinct : (order.pods.map Pod.address).Nodup) :
    (0 < pacing.retryInterval.nanos →
        Completes api pacing order s ∨ (drain api pacing order s).answer = .error .clockExhausted) ∧
      ∃ sent, (drain api pacing order s).state.log = s.log ++ sent ∧
        (∀ x ∈ sent, ∀ pod answer, x.eviction? = some (pod, answer) → pod ∈ order.pods) ∧
        ((drain api pacing order s).answer = .ok (.ok ()) → Drained order sent) ∧
        (Completes api pacing order s → ∀ pod ∈ order.pods, EvictionFailed sent pod →
          ∃ fault, (drain api pacing order s).answer =
            .ok (.error (.drainFailed order.node.name fault.message)) ∧
            GivenUp api (evictionTask pacing order) order sent fault) := by
  refine ⟨completes_of_pause, ?_⟩
  obtain ⟨sent, hlog, hlisted, hdrained, hgivenUp⟩ :=
    emptyNode_sound api pacing order (Session.announce api (drainStarted order) s).state hdistinct
  obtain ⟨began, closing, hlog', hbegan, hclosing, -⟩ := drain_eq rfl rfl hlog
  have hanswer := answer_drain api pacing order s
  refine ⟨began :: sent ++ closing, hlog', ?_, fun hok => ?_, fun hcompletes pod hpod hfailed => ?_⟩
  · refine List.forall_mem_cons.2 ⟨fun pod answer heviction => ?_,
      List.forall_mem_append.2 ⟨hlisted, ?_⟩⟩
    · rw [began.eviction?_of_createEvent hbegan] at heviction
      cases heviction
    · intro x hx pod answer heviction
      rw [hclosing.eviction?_eq_none x hx] at heviction
      cases heviction
  · rw [hok] at hanswer
    rcases hempty : (emptyNode api pacing order
      (Session.announce api (drainStarted order) s).state).answer with
      why | fault | done
    · rw [hempty] at hanswer
      cases hanswer
    · rw [hempty] at hanswer
      cases hanswer
    · exact (hdrained hempty).announced hbegan hclosing
  · rw [EvictionFailed, evictionAnswers_announced hbegan hclosing] at hfailed
    obtain ⟨fault, hfault, hgiven⟩ := hgivenUp hcompletes pod hpod hfailed
    rw [hanswer, hfault]
    exact ⟨fault, rfl, hgiven.announced hbegan hclosing⟩

/-- A pod of a deployment. -/
def web (name : String) : Pod where
  ns := "default"
  name := name
  uid := "1"

/-- An order to move two such pods. -/
def webOrder : DrainOrder where
  node := { name := "worker" }
  pods := [web "a", web "b"]
  gracePeriod := .ofSeconds 30
  evictionTimeout := .ofSeconds 60

/-- A server that first refuses to evict one of the pods, and on which the other pod is replaced
after a while. -/
def hesitant : ScriptedServer where
  evictions := .ofList [("default/a", [⟨.fault ⟨"", "TooManyRequests", 429⟩, ⟨0⟩⟩, {}])]
  lookups := .ofList [("default/b",
    [⟨.found (some "1") (some "worker"), ⟨0⟩⟩, ⟨.found (some "2") (some "worker"), ⟨0⟩⟩])]

/-- A server that forbids to evict one of the pods. -/
def forbidding : ScriptedServer where
  evictions := .ofList [("default/a", [⟨.fault ⟨"", "Forbidden", 403⟩, ⟨0⟩⟩])]

/-- The first server lets the node be drained. The second does not, but the other pod is attempted
all the same. -/
theorem drain_sound_web :
    (drain ScriptedServer.api {} webOrder { server := hesitant }).answer = .ok (.ok ()) ∧
      Drained webOrder (drain ScriptedServer.api {} webOrder { server := hesitant }).state.log ∧
      ∃ fault, (drain ScriptedServer.api {} webOrder { server := forbidding }).answer =
          .ok (.error (.drainFailed "worker" fault.message)) ∧
        GivenUp ScriptedServer.api (evictionTask {} webOrder) webOrder
          (drain ScriptedServer.api {} webOrder { server := forbidding }).state.log fault := by
  have hdistinct : (webOrder.pods.map Pod.address).Nodup := by decide
  have hretry : 0 < ({} : Pacing).retryInterval.nanos := by decide
  have hanswer : (drain ScriptedServer.api {} webOrder { server := hesitant }).answer =
    .ok (.ok ()) := by
    with_unfolding_all rfl
  have hends : (drain ScriptedServer.api {} webOrder { server := forbidding }).answer ≠
    .error .clockExhausted := by
    have hfailed : (drain ScriptedServer.api {} webOrder { server := forbidding }).answer.isOk := by
      with_unfolding_all rfl
    intro hinterrupted
    rw [hinterrupted] at hfailed
    cases hfailed
  have hrefused : evictionAnswers
      (drain ScriptedServer.api {} webOrder { server := forbidding }).state.log (web "a") =
      [.error (.fault ⟨"", "Forbidden", 403⟩)] := by
    with_unfolding_all rfl
  refine ⟨hanswer, ?_, ?_⟩
  · obtain ⟨-, sent, hlog, -, hdrained, -⟩ :=
      drain_sound ScriptedServer.api {} webOrder { server := hesitant } hdistinct
    rw [hlog]
    exact hdrained hanswer
  · obtain ⟨hcompletes, sent, hlog, -, -, hfailed⟩ :=
      drain_sound ScriptedServer.api {} webOrder { server := forbidding } hdistinct
    rw [hlog, List.nil_append] at hrefused ⊢
    have hrejected : EvictionFailed sent (web "a") :=
      Or.inl ⟨_, hrefused ▸ List.mem_singleton_self _, rfl⟩
    exact hfailed ((hcompletes hretry).resolve_right hends) (web "a") List.mem_cons_self hrejected

end SpotRebalance.ClusterApi
