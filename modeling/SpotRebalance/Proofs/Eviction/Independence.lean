import SpotRebalance.Proofs.ClusterApi.PodRule
import SpotRebalance.Proofs.Eviction.Soundness
import SpotRebalance.Proofs.Exchange.Unison

/-! # Drains do not depend on events

Two servers obey one rule for requests about pods, and may answer all else as they like. **Drains on
them go in unison** (`ClusterApi.unison_drain`): whatever comes of the events, both send the same
requests at the same times, take the same time and come to the same result
(`ClusterApi.drain_heeds_no_events`).

This is kept from one request to the next: the two sessions stay **abreast** (`Session.Abreast`),
and so do the boards of the workers (`Board.Abreast`). -/

namespace SpotRebalance

universe u v

variable {σ : Type u} {τ : Type v} {api : ApiServer σ} {api' : ApiServer τ}
  {before before' : List ApiExchange}

/-! ## Exchanges -/

namespace ApiExchange

/-- **Two exchanges are similar**: the same was requested and answered at the same times, and the
same was answered if it was about a pod. -/
structure Similar (x y : ApiExchange) : Prop where
  /-- The same was requested. -/
  request : x.request = y.request
  /-- The requests were sent at the same reading. -/
  sentAt : x.sentAt = y.sentAt
  /-- The answers came at the same reading. -/
  answeredAt : x.answeredAt = y.answeredAt
  /-- About a pod the same was answered. -/
  eq_of_isAboutPod : x.request.isAboutPod → x = y

/-- **Of similar exchanges, those about pods are the same.** -/
theorem filter_eq_of_similar {xs ys : List ApiExchange} (h : List.Forall₂ Similar xs ys) :
    xs.filter (·.request.isAboutPod) = ys.filter (·.request.isAboutPod) := by
  induction h with
  | nil => rfl
  | @cons x y xs ys hxy _ ih =>
    rw [List.filter_cons, List.filter_cons, ih, ← hxy.request]
    split
    · rename_i hpod
      rw [hxy.eq_of_isAboutPod hpod]
    · rfl

end ApiExchange

/-! ## Sessions -/

namespace Session

variable {s : Session σ} {t : Session τ}

/-- **Two sessions are abreast**: their clocks show the same, their servers obey one rule, and since
their logs were as before, similar exchanges were made. -/
structure Abreast (api : ApiServer σ) (api' : ApiServer τ) (before before' : List ApiExchange)
    (s : Session σ) (t : Session τ) : Prop where
  /-- The clocks show the same. -/
  clock : s.clock = t.clock
  /-- The servers obey one rule. -/
  server : ApiServer.SameRule api api' s.server t.server
  /-- Similar exchanges were made. -/
  log : ∃ sent sent', s.log = before ++ sent ∧ t.log = before' ++ sent' ∧
    List.Forall₂ ApiExchange.Similar sent sent'

/-- Sessions whose servers obey one rule are abreast of each other now. -/
theorem abreast_refl (hclock : s.clock = t.clock)
    (hserver : ApiServer.SameRule api api' s.server t.server) :
    Abreast api api' s.log t.log s t :=
  ⟨hclock, hserver, [], [], (List.append_nil _).symm, (List.append_nil _).symm, .nil⟩

/-- Both may wait until the same reading. -/
theorem Abreast.waitUntil (h : Abreast api api' before before' s t) (reading : Duration) :
    Abreast api api' before before' (s.waitUntil reading) (t.waitUntil reading) :=
  ⟨congrArg (max · reading) h.clock, h.server, h.log⟩

/-- **After the same request, sent at the same reading, they are abreast again.** -/
theorem Abreast.asked (h : Abreast api api' before before' s t) (request : ApiRequest)
    (sentAt : Duration) {clock clock' : Duration} (hclock : clock = clock') :
    Abreast api api' before before'
      ⟨(api.ask request s.server).state, clock, s.log ++
        [⟨sentAt, request, sentAt + (api.ask request s.server).took,
          (api.ask request s.server).answer⟩]⟩
      ⟨(api'.ask request t.server).state, clock', t.log ++
        [⟨sentAt, request, sentAt + (api'.ask request t.server).took,
          (api'.ask request t.server).answer⟩]⟩ := by
  obtain ⟨sent, sent', hlog, hlog', hsimilar⟩ := h.log
  have htook := h.server.took_eq request
  have hlast : ApiExchange.Similar
      ⟨sentAt, request, sentAt + (api.ask request s.server).took, (api.ask request s.server).answer⟩
      ⟨sentAt, request, sentAt + (api'.ask request t.server).took,
        (api'.ask request t.server).answer⟩ := by
    -- the rule binds the answer only here; any other one may differ
    refine ⟨rfl, rfl, congrArg (sentAt + ·) htook, fun hpod => ?_⟩
    rw [htook, h.server.answer_eq hpod]
  refine ⟨hclock, h.server.after request, _, _, ?_, ?_, List.rel_append hsimilar (.cons hlast .nil)⟩
  · rw [hlog, List.append_assoc]
  · rw [hlog', List.append_assoc]

/-- So they are after a request whose answer is waited for. -/
theorem Abreast.send (h : Abreast api api' before before' s t) (request : ApiRequest) :
    Abreast api api' before before' (send api request s).state (send api' request t).state := by
  have hclock : s.clock + (api.ask request s.server).took = t.clock +
      (api'.ask request t.server).took := by
    rw [h.clock, h.server.took_eq request]
  have hasked := h.asked request s.clock hclock
  simp only [Session.send, ← h.clock] at hasked ⊢
  exact hasked

/-- A request about a pod is answered the same on both sides. -/
theorem unison_send {request : ApiRequest} (hpod : request.isAboutPod) :
    (send api request).Unison (send api' request) (Abreast api api' before before') :=
  fun _ _ h => ⟨h.server.answer_eq hpod, h.server.took_eq request, h.send request⟩

/-- Both pause alike. -/
theorem unison_sleep (pause : Duration) :
    (sleep pause : Exchange (Session σ) Unit).Unison (sleep pause : Exchange (Session τ) Unit)
      (Abreast api api' before before') := by
  intro s t h
  refine ⟨rfl, ?_, ?_⟩
  · simp only [sleep, h.clock]
  · simp only [sleep, h.clock]
    exact h.waitUntil _

/-- **What comes of an announcement does not matter.** -/
theorem unison_announce (event : ClusterEvent) :
    (announce api event).Unison (announce api' event) (Abreast api api' before before') :=
  fun _ _ h => ⟨rfl, h.server.took_eq (.createEvent event), h.send (.createEvent event)⟩

end Session

open Session (Abreast)

/-! ## Workers -/

/-- **A worker does the same on both sides**, and leaves the sessions abreast. -/
theorem Worker.act_abreast {s : Session σ} {t : Session τ} (h : Abreast api api' before before' s t)
    (task : EvictionTask) (w : Worker) :
    (w.act api task s).1 = (w.act api' task t).1 ∧
      Abreast api api' before before' (w.act api task s).2 (w.act api' task t).2 := by
  rw [act, act]
  cases w.step with
  | leave fault => exact ⟨rfl, h⟩
  | announce =>
    refine ⟨?_, h.asked _ w.wake h.clock⟩
    simp only [Session.post, h.server.took_eq]
  | attempt last =>
    simp only
    cases w.overdue? task last with
    | some fault => exact ⟨rfl, h⟩
    | none =>
      refine ⟨?_, h.asked (task.request w.pod) w.wake h.clock⟩
      have hpod : (task.request w.pod).isAboutPod := rfl
      simp only [h.server.took_eq, h.server.answer_eq hpod]

/-! ## Boards -/

namespace Board

variable {task : EvictionTask} {slots : Nat} {b : Board σ} {c : Board τ}

/-- **Two boards are abreast**: their sessions are, and their pods and workers are the same. -/
structure Abreast (api : ApiServer σ) (api' : ApiServer τ) (before before' : List ApiExchange)
    (b : Board σ) (c : Board τ) : Prop where
  /-- The sessions are abreast. -/
  session : Session.Abreast api api' before before' b.session c.session
  /-- The same pods have no worker yet. -/
  waiting : b.waiting = c.waiting
  /-- The same workers are active. -/
  active : b.active = c.active
  /-- The same workers have left. -/
  departures : b.departures = c.departures

theorem Abreast.fill (h : b.Abreast api api' before before' c) (task : EvictionTask) (slots : Nat) :
    (fill task slots b).Abreast api api' before before' (fill task slots c) := by
  refine ⟨h.session, ?_, ?_, h.departures⟩
  · simp only [Board.fill, h.waiting, h.active]
  · simp only [Board.fill, h.waiting, h.active, h.session.clock]

/-- Two boards of the same pods start abreast. -/
theorem abreast_start {s : Session σ} {t : Session τ}
    (h : Session.Abreast api api' before before' s t) (task : EvictionTask) (slots : Nat)
    (pods : List Pod) :
    (start task slots pods s).Abreast api api' before before' (start task slots pods t) := by
  have hempty : Abreast api api' before before' {
    session := s, waiting := pods.zipIdx.map fun e => (e.2, e.1) }
      { session := t, waiting := pods.zipIdx.map fun e => (e.2, e.1) } := ⟨h, rfl, rfl, rfl⟩
  exact hempty.fill task slots

/-- **One step keeps two boards abreast**, or neither has one to make. -/
theorem Abreast.step? (h : b.Abreast api api' before before' c) (task : EvictionTask)
    (slots : Nat) :
    Option.Rel (Abreast api api' before before') (b.step? api task slots)
      (c.step? api' task slots) := by
  -- the same worker is next on both sides, since their workers and wake readings are the same
  rw [Board.step?, Board.step?, next?, next?, ← h.active]
  cases (earliest? b.active).filter fun next => !next.1.breaksOff with
  | none => exact .none
  | some next =>
    obtain ⟨w, others⟩ := next
    obtain ⟨hact, hsession⟩ := w.act_abreast (h.session.waitUntil w.wake) task
    simp only [Option.map_some]
    refine .some ?_
    rcases hact₁ : w.act api task (b.session.waitUntil w.wake) with ⟨did, s⟩
    rcases hact₂ : w.act api' task (c.session.waitUntil w.wake) with ⟨did', t⟩
    rw [hact₁, hact₂] at hact hsession
    obtain rfl : did = did' := hact
    cases did with
    | sleeps w => exact ⟨hsession, h.waiting, rfl, h.departures⟩
    | left fault =>
      have hleft : Abreast api api' before before'
          { b with
            session := s, active := others,
            departures := b.departures ++ [⟨w.index, w.pod, w.wake, fault⟩] }
          { c with
            session := t, active := others,
            departures := c.departures ++ [⟨w.index, w.pod, w.wake, fault⟩] } :=
        ⟨hsession, h.waiting, rfl, congrArg (· ++ _) h.departures⟩
      exact hleft.fill task slots

/-- **A whole run keeps two boards abreast.** -/
theorem Abreast.run (h : b.Abreast api api' before before' c) (task : EvictionTask)
    (slots fuel : Nat) :
    (run api task slots fuel b).Abreast api api' before before' (run api' task slots fuel c) := by
  induction fuel generalizing b c with
  | zero => exact h
  | succ fuel ih =>
    have hstep := h.step? task slots
    rw [Board.run, Board.run]
    generalize b.step? api task slots = next, c.step? api' task slots = next' at hstep ⊢
    cases hstep with
    | none => exact h
    | some hnext => exact ih hnext

theorem Abreast.result_eq (h : b.Abreast api api' before before' c) : b.result = c.result := by
  rw [result, result, h.active, h.departures]

end Board

/-! ## Waiting for deletion -/

namespace Deletion

theorem unison_pass (node : String) (pods : List Pod) :
    (pass api node pods).Unison (pass api' node pods) (Abreast api api' before before') := by
  induction pods with
  | nil => exact Exchange.unison_done []
  | cons pod pods ih => exact (Session.unison_send rfl).bind fun answer => ih.map _

theorem unison_awaitFrom (w : Watch) (fuel : Nat) :
    (awaitFrom api w fuel).Unison (awaitFrom api' w fuel) (Abreast api api' before before') := by
  induction fuel with
  | zero => exact Exchange.unison_done _
  | succ fuel ih =>
    refine (unison_pass w.node w.pods).bind fun left => ?_
    cases left with
    | nil => exact Exchange.unison_done _
    | cons key keys =>
      intro s t h
      -- both clocks show the same, so both waits end at this pass or neither does
      simp only [← h.clock]
      split
      · exact ⟨rfl, rfl, h⟩
      · exact (Session.unison_sleep w.pollInterval).bind (fun _ => ih) s t h

theorem unison_await (node : String) (pods : List Pod) (pollInterval timeout : Duration) :
    (await api node pods pollInterval timeout).Unison (await api' node pods pollInterval timeout)
      (Abreast api api' before before') := by
  intro s t h
  rw [await, await, ← h.clock]
  cases s.clock.later? timeout with
  | none => exact ⟨rfl, rfl, h⟩
  | some deadline => exact unison_awaitFrom _ _ s t h

end Deletion

/-! ## Drains -/

namespace ClusterApi

/-- **The evictions go in unison.** -/
theorem unison_evictAll (pacing : Pacing) (order : DrainOrder) :
    (evictAll api pacing order).Unison (evictAll api' pacing order)
      (Abreast api api' before before') := by
  intro s t h
  have hstart := Board.abreast_start h (evictionTask pacing order) pacing.concurrency order.pods
  have hrun := hstart.run (evictionTask pacing order) pacing.concurrency
    (Board.mostSteps (evictionTask pacing order) order.pods)
  refine ⟨hrun.result_eq, ?_, hrun.session⟩
  simp only [evictAll, evictions, hrun.session.clock, h.clock]

theorem unison_awaitDeparture (pacing : Pacing) (order : DrainOrder) :
    (awaitDeparture api pacing order).Unison (awaitDeparture api' pacing order)
      (Abreast api api' before before') := by
  rw [awaitDeparture, awaitDeparture]
  cases order.gracePeriod.add? pacing.headroom with
  | none => exact Exchange.unison_done _
  | some timeout => exact Deletion.unison_await _ _ _ _

theorem unison_emptyNode (pacing : Pacing) (order : DrainOrder) :
    (emptyNode api pacing order).Unison (emptyNode api' pacing order)
      (Abreast api api' before before') := by
  refine (unison_evictAll pacing order).andThen fun result => ?_
  cases result with
  | error fault => exact Exchange.unison_done _
  | ok done => exact unison_awaitDeparture pacing order

/-- **Drains go in unison.** -/
theorem unison_drain (pacing : Pacing) (order : DrainOrder) :
    (drain api pacing order).Unison (drain api' pacing order)
      (Abreast api api' before before') := by
  refine (Session.unison_announce _).bind fun _ => ?_
  exact (unison_emptyNode pacing order).andThen fun result => (Session.unison_announce _).map _

/-- **Events have no influence on a drain.** Two servers answer requests about pods by one rule and
all requests without delay; what else they answer, as to events, may differ. Then both drains come
to the same result at the same time, and send the same requests to evict and to look up pods, at the
same times and with the same answers. Their announcements are the same, too, but for what they are
answered with. -/
theorem drain_heeds_no_events (pacing : Pacing) (order : DrainOrder) (s : Session σ) (t : Session τ)
    {rule : PodRule} (hs : api.Obeys rule s.server) (ht : api'.Obeys rule t.server)
    (hclock : s.clock = t.clock) :
    (drain api pacing order s).answer = (drain api' pacing order t).answer ∧
      (drain api pacing order s).took = (drain api' pacing order t).took ∧
      (drain api pacing order s).state.clock = (drain api' pacing order t).state.clock ∧
      ∃ sent sent', (drain api pacing order s).state.log = s.log ++ sent ∧
        (drain api' pacing order t).state.log = t.log ++ sent' ∧
        sent.filter (·.request.isAboutPod) = sent'.filter (·.request.isAboutPod) ∧
        List.Forall₂ ApiExchange.Similar sent sent' := by
  obtain ⟨hanswer, htook, habreast⟩ :=
    unison_drain pacing order s t (Session.abreast_refl hclock ⟨rule, hs, ht⟩)
  obtain ⟨sent, sent', hlog, hlog', hsimilar⟩ := habreast.log
  exact ⟨hanswer, htook, habreast.clock, sent, sent', hlog, hlog',
    ApiExchange.filter_eq_of_similar hsimilar, hsimilar⟩

/-- A server that does the same for pods as another, and takes no event: at first the connection
fails, then the answer cannot be read, and from then on events are forbidden. -/
def deaf : ScriptedServer :=
  { hesitant with
    eventsScript := [⟨.broken, ⟨0⟩⟩, ⟨.garbage, ⟨0⟩⟩, ⟨.fault ⟨"", "Forbidden", 403⟩, ⟨0⟩⟩] }

/-- Of two such servers one takes the events and the other does not, and the node is drained all the
same. -/
theorem drain_heeds_no_events_web :
    (drain ScriptedServer.api {} webOrder { server := hesitant }).answer = .ok (.ok ()) ∧
      (drain ScriptedServer.api {} webOrder { server := deaf }).answer = .ok (.ok ()) ∧
      ∃ sent sent', (drain ScriptedServer.api {} webOrder { server := hesitant }).state.log = sent ∧
        (drain ScriptedServer.api {} webOrder { server := deaf }).state.log = sent' ∧
        sent.filter (·.request.isAboutPod) = sent'.filter (·.request.isAboutPod) ∧
        (sent'.filter (·.request.isAboutPod)).map (·.sentAt.seconds) = [0, 0, 10, 10, 10, 15, 15] ∧
        sent.head? = some ⟨⟨0⟩, .createEvent (drainStarted webOrder), ⟨0⟩, .ok ()⟩ ∧
        sent'.head? =
          some ⟨⟨0⟩, .createEvent (drainStarted webOrder), ⟨0⟩,
            .error (.connection ScriptedServer.resetReason)⟩ := by
  have hhesitant : hesitant.Undelayed :=
    ⟨nofun, nofun, nofun, nofun, nofun, ScriptedServer.undelayed_scriptOf (by decide),
      ScriptedServer.undelayed_scriptOf (by decide)⟩
  have hdeaf : deaf.Undelayed := { hhesitant with events := by decide }
  obtain ⟨hanswer, -, -, sent, sent', hlog, hlog', hsame, -⟩ :=
    drain_heeds_no_events {} webOrder { server := hesitant }
    { server := deaf } (ScriptedServer.obeys hhesitant) (ScriptedServer.obeys hdeaf) rfl
  rw [List.nil_append] at hlog hlog'
  have hok : (drain ScriptedServer.api {} webOrder { server := hesitant }).answer =
    .ok (.ok ()) := by
    with_unfolding_all rfl
  refine ⟨hok, hanswer.symm.trans hok, sent, sent', hlog, hlog', hsame, ?_, ?_, ?_⟩
  · rw [← hlog']
    with_unfolding_all rfl
  · rw [← hlog]
    with_unfolding_all rfl
  · rw [← hlog']
    with_unfolding_all rfl

end ClusterApi

end SpotRebalance
