import SpotRebalance.ClusterApi.Scripted

/-! # Rules for requests about pods

Pods are evicted and looked up; these requests are **about a pod**. A **rule** says what each of
them is answered with, given those that came before it. **A server obeys a rule**
(`ApiServer.Obeys`) if it answers at once, and requests about pods as the rule says, whatever else
it is asked and however it answers that.

A scripted server without delays obeys a rule that is in its scripts of evictions and look-ups alone
(`ScriptedServer.obeys`). -/

namespace SpotRebalance

universe u v

variable {σ : Type u} {τ : Type v}

/-- **A request is about a pod**: to evict it, or to look it up. -/
def ApiRequest.isAboutPod : ApiRequest → Bool
  | getPod _ | evict .. => true
  | listNodes | listPods _ | listBudgets | createEvent _ => false

/-- **A rule for requests about pods**: what each of them is answered with after others. -/
abbrev PodRule := List ApiRequest → (request : ApiRequest) → ApiAnswer request

/-- The rule that is left after a request. -/
def PodRule.after (rule : PodRule) (request : ApiRequest) : PodRule :=
  if request.isAboutPod then fun earlier => rule (request :: earlier) else rule

theorem PodRule.after_filter (rule : PodRule) (request : ApiRequest) (earlier : List ApiRequest) :
    rule.after request (earlier.filter (·.isAboutPod)) =
      rule ((request :: earlier).filter (·.isAboutPod)) := by
  cases hpod : request.isAboutPod <;> simp [PodRule.after, hpod]

/-! ## Servers -/

namespace ApiServer

variable {api : ApiServer σ} {api' : ApiServer τ} {s : σ} {t : τ} {rule : PodRule}

/-- The state of a server after it was asked for some things. -/
def asked (api : ApiServer σ) (s : σ) (requests : List ApiRequest) : σ :=
  requests.foldl (fun s request => (api.ask request s).state) s

/-- **A server obeys a rule** from a state on: after whatever requests, a request about a pod is
answered as the rule says for the requests about pods among them, and every request is answered
without delay. -/
structure Obeys (api : ApiServer σ) (rule : PodRule) (s : σ) : Prop where
  /-- Requests about pods are answered by the rule. -/
  answer : ∀ (earlier : List ApiRequest) (request : ApiRequest), request.isAboutPod →
    (api.ask request (api.asked s earlier)).answer = rule (earlier.filter (·.isAboutPod)) request
  /-- All requests are answered at once. -/
  prompt : ∀ (earlier : List ApiRequest) (request : ApiRequest),
    (api.ask request (api.asked s earlier)).took = ⟨0⟩

/-- It goes on obeying what is left of the rule. -/
theorem Obeys.after (h : api.Obeys rule s) (request : ApiRequest) :
    api.Obeys (rule.after request) (api.ask request s).state where
  answer earlier other hother := by
    rw [PodRule.after_filter]
    exact h.answer (request :: earlier) other hother
  prompt earlier other := h.prompt (request :: earlier) other

/-- **Two servers obey one rule** from their states on. -/
def SameRule (api : ApiServer σ) (api' : ApiServer τ) (s : σ) (t : τ) : Prop :=
  ∃ rule, api.Obeys rule s ∧ api'.Obeys rule t

/-- Both take the same time. -/
theorem SameRule.took_eq (h : SameRule api api' s t) (request : ApiRequest) :
    (api.ask request s).took = (api'.ask request t).took := by
  obtain ⟨rule, hs, ht⟩ := h
  exact (hs.prompt [] request).trans (ht.prompt [] request).symm

/-- Both answer the same if they are asked about a pod. -/
theorem SameRule.answer_eq (h : SameRule api api' s t) {request : ApiRequest}
    (hpod : request.isAboutPod) :
    (api.ask request s).answer = (api'.ask request t).answer := by
  obtain ⟨rule, hs, ht⟩ := h
  exact (hs.answer [] request hpod).trans (ht.answer [] request hpod).symm

/-- Both go on obeying one rule after the same request, also if they answered differently. -/
theorem SameRule.after (h : SameRule api api' s t) (request : ApiRequest) :
    SameRule api api' (api.ask request s).state (api'.ask request t).state := by
  obtain ⟨rule, hs, ht⟩ := h
  exact ⟨rule.after request, hs.after request, ht.after request⟩

end ApiServer

/-! ## Scripted servers -/

namespace Script

/-- No reply of a script is delayed. -/
def Undelayed (script : Script) : Prop := ∀ reply ∈ script, reply.delay = ⟨0⟩

instance : DecidablePred Undelayed :=
  fun script => inferInstanceAs (Decidable (∀ reply ∈ script, _))

variable {script : Script}

theorem Undelayed.delay_next (h : script.Undelayed) : script.next.1.delay = ⟨0⟩ := by
  match script, h with
  | [], _ => rfl
  | [last], h => exact h last (List.mem_singleton_self last)
  | reply :: _ :: _, h => exact h reply List.mem_cons_self

theorem Undelayed.next (h : script.Undelayed) : Undelayed script.next.2 := by
  match script, h with
  | [], h => exact h
  | [_], h => exact h
  | _ :: _ :: _, h => exact fun reply hreply => h reply (List.mem_cons_of_mem _ hreply)

end Script

namespace ScriptedServer

variable {s t : ScriptedServer} {scripts : NameTable Script} {pod : Pod} {request : ApiRequest}

/-- **No reply of a server is delayed.** -/
structure Undelayed (s : ScriptedServer) : Prop where
  /-- No list of nodes. -/
  nodes : s.nodesScript.Undelayed
  /-- No list of pods. -/
  pods : s.podsScript.Undelayed
  /-- No list of pods that are not bound. -/
  pending : s.pendingScript.Undelayed
  /-- No list of budgets. -/
  budgets : s.budgetsScript.Undelayed
  /-- No answer to an event. -/
  events : s.eventsScript.Undelayed
  /-- No answer to an eviction. -/
  evictions : ∀ pod, (scriptOf s.evictions pod).Undelayed
  /-- No answer to a look-up. -/
  lookups : ∀ pod, (scriptOf s.lookups pod).Undelayed

/-- No script of a pod has delays if none in the table has. -/
theorem undelayed_scriptOf (h : ∀ e ∈ scripts.entries, e.2.Undelayed) (pod : Pod) :
    (scriptOf scripts pod).Undelayed := by
  rw [scriptOf]
  cases hscript : scripts.get? pod.key with
  | none => exact nofun
  | some script => exact h _ (NameTable.mem_of_lookup_eq_some hscript)

/-- The reply to one pod leaves no delays if there were none. -/
theorem undelayed_advance (h : ∀ pod, (scriptOf scripts pod).Undelayed) (pod other : Pod) :
    (scriptOf (advance scripts pod (scriptOf scripts pod).next.2) other).Undelayed := by
  rw [advance]
  split
  · rw [scriptOf, NameTable.get?_insert]
    split
    · exact (h pod).next
    · exact h other
  · exact h other

theorem Undelayed.ask (h : s.Undelayed) (request : ApiRequest) :
    (api.ask request s).took = ⟨0⟩ ∧ (api.ask request s).state.Undelayed := by
  rw [ApiServer.ask]
  cases request.uri with
  | error fault => exact ⟨rfl, h⟩
  | ok uri =>
    cases request with
    | listNodes => exact ⟨h.nodes.delay_next, { h with nodes := h.nodes.next }⟩
    | listPods selection =>
      cases selection with
      | active => exact ⟨h.pods.delay_next, { h with pods := h.pods.next }⟩
      | pending => exact ⟨h.pending.delay_next, { h with pending := h.pending.next }⟩
    | listBudgets => exact ⟨h.budgets.delay_next, { h with budgets := h.budgets.next }⟩
    | getPod pod =>
      exact ⟨(h.lookups pod).delay_next, { h with lookups := undelayed_advance h.lookups pod }⟩
    | evict pod seconds =>
      exact ⟨(h.evictions pod).delay_next,
        { h with evictions := undelayed_advance h.evictions pod }⟩
    | createEvent event => exact ⟨h.events.delay_next, { h with events := h.events.next }⟩

theorem Undelayed.asked (h : s.Undelayed) (requests : List ApiRequest) :
    (api.asked s requests).Undelayed := by
  induction requests generalizing s with
  | nil => exact h
  | cons request requests ih => exact ih (h.ask request).2

/-- **Two servers know the same of pods**: they have the same scripts of evictions and look-ups. -/
structure SamePods (s t : ScriptedServer) : Prop where
  /-- The same evictions. -/
  evictions : s.evictions = t.evictions
  /-- The same look-ups. -/
  lookups : s.lookups = t.lookups

/-- Both answer a request about a pod in the same way. -/
theorem SamePods.ask (h : s.SamePods t) (hpod : request.isAboutPod) :
    (api.ask request s).answer = (api.ask request t).answer ∧
      (api.ask request s).state.SamePods (api.ask request t).state := by
  obtain ⟨hevictions, hlookups⟩ := h
  rw [ApiServer.ask]
  cases request.uri with
  | error fault => exact ⟨rfl, hevictions, hlookups⟩
  | ok uri =>
    cases request with
    | listNodes | listPods _ | listBudgets | createEvent _ => cases hpod
    | getPod pod =>
      simp only [api, handle, hlookups]
      exact ⟨rfl, hevictions, rfl⟩
    | evict pod seconds =>
      simp only [api, handle, hevictions]
      exact ⟨rfl, rfl, hlookups⟩

/-- Any other request leaves the pods as they were. -/
theorem samePods_ask (s : ScriptedServer) (hpod : request.isAboutPod = false) :
    (api.ask request s).state.SamePods s := by
  rw [ApiServer.ask]
  cases request.uri with
  | error fault => exact ⟨rfl, rfl⟩
  | ok uri =>
    cases request with
    | listPods selection => cases selection <;> exact ⟨rfl, rfl⟩
    | listNodes | listBudgets | createEvent _ => exact ⟨rfl, rfl⟩
    | getPod _ | evict _ _ => cases hpod

/-- **Only the requests about pods tell what a server knows of pods.** -/
theorem SamePods.asked (h : s.SamePods t) (requests : List ApiRequest) :
    (api.asked s requests).SamePods (api.asked t (requests.filter (·.isAboutPod))) := by
  induction requests generalizing s t with
  | nil => exact h
  | cons request requests ih =>
    cases hpod : request.isAboutPod with
    | true =>
      rw [List.filter_cons_of_pos hpod]
      exact ih (h.ask hpod).2
    | false =>
      rw [List.filter_cons_of_neg (by simp [hpod])]
      have hsame := samePods_ask s hpod
      exact ih ⟨hsame.evictions.trans h.evictions, hsame.lookups.trans h.lookups⟩

/-- The rule in the scripts of evictions and look-ups. -/
def podRule (evictions lookups : NameTable Script) : PodRule := fun earlier request =>
  (api.ask request (api.asked { evictions, lookups } earlier)).answer

/-- **A server without delays obeys the rule in its scripts.** -/
theorem obeys (h : s.Undelayed) : api.Obeys (podRule s.evictions s.lookups) s where
  answer earlier _ hpod := by
    have hsame : s.SamePods { evictions := s.evictions, lookups := s.lookups } := ⟨rfl, rfl⟩
    exact ((hsame.asked earlier).ask hpod).1
  prompt earlier request := ((h.asked earlier).ask request).1

end ScriptedServer

end SpotRebalance
