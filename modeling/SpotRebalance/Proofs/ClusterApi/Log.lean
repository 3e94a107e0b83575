import SpotRebalance.ClusterApi.Server
import SpotRebalance.Proofs.Clock.Timers
import SpotRebalance.Proofs.Exchange.Sequence

/-! # Logs of sessions

What the log of a session tells of a pod: how the requests to evict it were answered, in order
(`evictionAnswers`). Pods are told apart by their **address**, which is namespace and name.

What is in the log was asked of the server (`ApiServer.Asked`). So a request whose target is a URI
was given to the server (`ApiServer.Asked.handled`), and any other one failed at once. -/

namespace SpotRebalance

universe u

variable {σ : Type u}

/-! ## What was asked of a server -/

/-- **A server was asked**: the exchange is what came of that in some state. -/
def ApiServer.Asked (api : ApiServer σ) (x : ApiExchange) : Prop :=
  ∃ s, x.answer = (api.ask x.request s).answer ∧
    x.answeredAt = x.sentAt + (api.ask x.request s).took

/-- **A server was given a request**, and the exchange is what it answered in some state. -/
def ApiServer.Handled (api : ApiServer σ) (x : ApiExchange) : Prop :=
  ∃ s, x.answer = (api.handle x.request s).answer ∧
    x.answeredAt = x.sentAt + (api.handle x.request s).took

/-- What a server is asked is so. -/
theorem ApiServer.asked_ask (api : ApiServer σ) (request : ApiRequest) (s : σ) (sentAt : Duration) :
    api.Asked ⟨sentAt, request, sentAt + (api.ask request s).took, (api.ask request s).answer⟩ :=
  ⟨s, rfl, rfl⟩

/-- **A request that has a URI is given to the server.** -/
theorem ApiServer.Asked.handled {api : ApiServer σ} {x : ApiExchange} (h : api.Asked x) {uri : Uri}
    (huri : x.request.uri = .ok uri) : api.Handled x := by
  obtain ⟨s, hanswer, htook⟩ := h
  rw [ApiServer.ask, huri] at hanswer htook
  exact ⟨s, hanswer, htook⟩

/-- A request that has none is answered by that fault. -/
theorem ApiServer.Asked.unsendable {api : ApiServer σ} {x : ApiExchange} (h : api.Asked x)
    {fault : RequestFault} (hfault : x.request.uri = .error fault) :
    x.answer = .error (.unsendable fault) := by
  obtain ⟨s, hanswer, -⟩ := h
  rw [ApiServer.ask, hfault] at hanswer
  exact hanswer

/-! ## Requests -/

/-- A request that is waited for is sent at the present, and answered when the clock goes on. -/
theorem Session.send_eq {api : ApiServer σ} {request : ApiRequest} {s s' : Session σ}
    {answer : ApiAnswer request} {took : Duration} (h : send api request s = ⟨answer, took, s'⟩) :
    s.clock.nanos ≤ s'.clock.nanos ∧ s'.log = s.log ++ [⟨s.clock, request, s'.clock, answer⟩] := by
  obtain ⟨rfl, rfl, rfl⟩ := Reply.mk.inj h
  exact ⟨Nat.le_add_right .., rfl⟩

/-- After a pause the clock has gone on, and nothing was sent. -/
theorem Session.sleep_eq {pause took : Duration} {s s' : Session σ}
    (h : sleep pause s = ⟨(), took, s'⟩) :
    s'.clock = s.clock.afterPause pause ∧ s'.log = s.log := by
  obtain ⟨-, -, rfl⟩ := Reply.mk.inj h
  have hlater := Duration.le_afterPause s.clock pause
  rw [Duration.le_iff] at hlater
  refine ⟨Duration.ext ?_, rfl⟩
  rw [waitUntil, Duration.nanos_max, Nat.max_eq_right hlater]

/-- The pod that was to be evicted, with the answer. -/
def ApiExchange.eviction? : ApiExchange → Option (Pod × Except ClientError Unit)
  | ⟨_, .evict pod _, _, answer⟩ => some (pod, answer)
  | ⟨_, .listNodes, _, _⟩ | ⟨_, .listPods _, _, _⟩ | ⟨_, .listBudgets, _, _⟩ | ⟨_, .getPod _, _, _⟩
  | ⟨_, .createEvent _, _, _⟩ => none

/-- The pod that was looked up, with the answer. -/
def ApiExchange.lookup? : ApiExchange → Option (Pod × Except ClientError PodManifest)
  | ⟨_, .getPod pod, _, answer⟩ => some (pod, answer)
  | ⟨_, .listNodes, _, _⟩ | ⟨_, .listPods _, _, _⟩ | ⟨_, .listBudgets, _, _⟩ | ⟨_, .evict .., _, _⟩
  | ⟨_, .createEvent _, _, _⟩ => none

/-- What announces something evicts nobody. -/
theorem ApiExchange.eviction?_of_createEvent {x : ApiExchange} {event : ClusterEvent}
    (h : x.request = .createEvent event) : x.eviction? = none := by
  obtain ⟨sentAt, request, answeredAt, answer⟩ := x
  cases h
  rfl

/-- What looks up a pod evicts nobody. -/
theorem ApiExchange.eviction?_of_lookup {x : ApiExchange} (h : x.lookup?.isSome) :
    x.eviction? = none := by
  obtain ⟨sentAt, request, answeredAt, answer⟩ := x
  cases request with
  | evict => cases h
  | listNodes | listPods | listBudgets | getPod | createEvent => rfl

/-- What announces something looks up no pod. -/
theorem ApiExchange.lookup?_of_createEvent {x : ApiExchange} {event : ClusterEvent}
    (h : x.request = .createEvent event) : x.lookup? = none := by
  obtain ⟨sentAt, request, answeredAt, answer⟩ := x
  cases h
  rfl

/-- An announcement is sent, and whatever comes of it, the clock goes on. -/
theorem Session.announce_eq {api : ApiServer σ} {event : ClusterEvent} {s s' : Session σ}
    {took : Duration} (h : announce api event s = ⟨(), took, s'⟩) :
    s.clock.nanos ≤ s'.clock.nanos ∧ ∃ x, s'.log = s.log ++ [x] ∧
      x.request = .createEvent event := by
  rcases hsend : send api (.createEvent event) s with ⟨answer, took', s₁⟩
  rw [announce, Exchange.map_eq hsend] at h
  cases h
  obtain ⟨hclock, hlog⟩ := send_eq hsend
  exact ⟨hclock, _, hlog, rfl⟩

/-! ## Answers -/

/-- Where a pod is found: its namespace and its name. -/
def Pod.address (p : Pod) : String × String := (p.ns, p.name)

/-- **The answers to the evictions of a pod**, in the order in which they were asked for. -/
def evictionAnswers (log : List ApiExchange) (pod : Pod) : List (Except ClientError Unit) :=
  (log.filterMap ApiExchange.eviction?).filterMap fun e =>
    if e.1.address = pod.address then some e.2 else none

@[simp] theorem evictionAnswers_nil (pod : Pod) : evictionAnswers [] pod = [] := rfl

@[simp] theorem evictionAnswers_append (first second : List ApiExchange) (pod : Pod) :
    evictionAnswers (first ++ second) pod = evictionAnswers first pod ++
      evictionAnswers second pod := by
  simp [evictionAnswers]

/-- Exchanges that evict other pods or none hold no answer. -/
theorem evictionAnswers_eq_nil {log : List ApiExchange} {pod : Pod}
    (h : ∀ x ∈ log, ∀ other answer, x.eviction? = some (other, answer) →
      other.address ≠ pod.address) :
    evictionAnswers log pod = [] := by
  rw [evictionAnswers, List.filterMap_eq_nil_iff]
  intro e he
  obtain ⟨x, hx, heviction⟩ := List.mem_filterMap.1 he
  exact if_neg (h x hx e.1 e.2 heviction)

/-- Exchanges that evict nobody hold no answer. -/
theorem evictionAnswers_eq_nil_of_quiet {log : List ApiExchange} (h : ∀ x ∈ log, x.eviction? = none)
    (pod : Pod) :
    evictionAnswers log pod = [] :=
  evictionAnswers_eq_nil fun x hx _ _ heviction => by
    rw [h x hx] at heviction
    cases heviction

/-- An eviction of the pod adds its answer. -/
theorem evictionAnswers_singleton_of_eviction {x : ApiExchange} {pod : Pod}
    {answer : Except ClientError Unit} (h : x.eviction? = some (pod, answer)) :
    evictionAnswers [x] pod = [answer] := by
  simp [evictionAnswers, h]

/-- A pod with an answer was to be evicted. -/
theorem exists_eviction_of_ne_nil {log : List ApiExchange} {pod : Pod}
    (h : evictionAnswers log pod ≠ []) :
    ∃ x ∈ log, ∃ other answer, x.eviction? = some (other, answer) ∧
      other.address = pod.address := by
  obtain ⟨answer, hanswer⟩ := List.exists_mem_of_ne_nil _ h
  obtain ⟨⟨other, answer'⟩, he, hsame⟩ := List.mem_filterMap.1 hanswer
  obtain ⟨x, hx, heviction⟩ := List.mem_filterMap.1 he
  exact ⟨x, hx, other, answer', heviction, Decidable.byContradiction
    fun hne => by simp [hne] at hsame⟩

end SpotRebalance
