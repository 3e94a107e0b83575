import Mathlib.Data.List.Forall2
import SpotRebalance.Eviction.Deletion
import SpotRebalance.Proofs.Eviction.Attempts
import SpotRebalance.Proofs.Exchange.Sequence

/-! # What the wait for deletion finds

A pass looks up every pod in list order, and finds nothing left exactly if every pod has
**departed**: the server knows no such pod, or the pod there has another identity, or it is not on
the node (`Departed`, `passed_pass`). The wait ends well only with such a pass (`watched_await`). -/

namespace SpotRebalance.Deletion

universe u

variable {σ : Type u}

/-- **A pod has departed from a node**, as its look-up shows. -/
inductive Departed (node : String) (pod : Pod) : Except ClientError PodManifest → Prop where
  /-- There is no such pod. -/
  | absent {f : ApiFault} (hreason : f.reason = notFound) : Departed node pod (.error (.fault f))
  /-- There is another pod at its address. -/
  | replaced {found : PodManifest} (hknown : pod.uid ≠ "")
      (huid : found.metadata.uid ≠ some pod.uid) :
      Departed node pod (.ok found)
  /-- The pod there is not on the node. -/
  | elsewhere {found : PodManifest} (hnode : found.spec.bind (·.nodeName) ≠ some node) :
      Departed node pod (.ok found)

/-- A pod that does not count as left has departed. -/
theorem departed_of_isLeft_eq_false {node : String} {pod : Pod}
    {answer : Except ClientError PodManifest} (h : isLeft node pod answer = false) :
    Departed node pod answer := by
  rcases answer with e | found
  · cases e with
    | fault f => exact .absent (by simpa [isLeft] using h)
    | unsendable | connection | unreadable | endlessLine => simp [isLeft] at h
  · rw [isLeft, isSamePod, Bool.and_eq_false_iff] at h
    rcases h with hidentity | hnode
    · simp only [Bool.or_eq_false_iff, beq_eq_false_iff_ne] at hidentity
      exact .replaced hidentity.1 hidentity.2
    · exact .elsewhere (by simpa using hnode)

/-- **A pass** looks up every pod in order; if it finds none left, each has departed. -/
structure Passed (node : String) (pods : List Pod) (s : Session σ) (looked : List ApiExchange)
    (left : List String) (s' : Session σ) : Prop where
  /-- The log holds the look-ups. -/
  log : s'.log = s.log ++ looked
  /-- Each pod was looked up. -/
  lookups : List.Forall₂ (fun pod x => ∃ answer, x.lookup? = some (pod, answer) ∧
    (left = [] → Departed node pod answer))
    pods looked
  /-- The look-ups come after the present. -/
  later : ∀ x ∈ looked, s.clock.nanos ≤ x.sentAt.nanos
  /-- The clock goes on. -/
  clock : s.clock.nanos ≤ s'.clock.nanos

/-- **Every pass does so.** -/
theorem passed_pass (api : ApiServer σ) (node : String) (pods : List Pod) (s : Session σ) :
    ∃ looked, Passed node pods s looked (pass api node pods s).answer
      (pass api node pods s).state := by
  induction pods generalizing s with
  | nil => exact ⟨[], (List.append_nil _).symm, .nil, by simp, Nat.le_refl _⟩
  | cons pod pods ih =>
    rcases hsend : Session.send api (.getPod pod) s with ⟨answer, took, s₁⟩
    obtain ⟨hclock, hlog⟩ := Session.send_eq hsend
    obtain ⟨looked, hpassed⟩ := ih s₁
    rcases hrest : pass api node pods s₁ with ⟨left, wait, s₂⟩
    rw [hrest] at hpassed
    rw [pass, Exchange.bind_eq hsend, Exchange.map_eq hrest]
    refine ⟨⟨s.clock, .getPod pod, s₁.clock, answer⟩ :: looked, ?_,
      .cons ⟨answer, rfl, fun hnone => ?_⟩ ?_, ?_, ?_⟩
    · exact hpassed.log.trans (by rw [hlog, List.append_assoc, List.singleton_append])
    · -- a pod that counts as left would be named
      refine departed_of_isLeft_eq_false ?_
      cases hleft : isLeft node pod answer with
      | false => rfl
      | true => simp [hleft] at hnone
    · refine hpassed.lookups.imp fun other x hx => ?_
      obtain ⟨answer', hlookup, hdeparted⟩ := hx
      refine ⟨answer', hlookup, fun hnone => hdeparted ?_⟩
      cases hleft : isLeft node pod answer with
      | false => simpa [hleft] using hnone
      | true => simp [hleft] at hnone
    · refine List.forall_mem_cons.2 ⟨Nat.le_refl _, fun x hx => ?_⟩
      exact Nat.le_trans hclock (hpassed.later x hx)
    · exact Nat.le_trans hclock hpassed.clock

/-- **A wait for deletion** only looks up pods; if it ends well, so does its last pass. -/
structure Watched (node : String) (pods : List Pod) (s : Session σ) (sent : List ApiExchange)
    (answer : Except Interruption (Except EvictionFault Unit)) (s' : Session σ) : Prop where
  /-- The log holds what was sent. -/
  log : s'.log = s.log ++ sent
  /-- Only pods were looked up. -/
  lookups : ∀ x ∈ sent, ∃ pod found, x.lookup? = some (pod, found)
  /-- If the wait ends well, all pods were looked up last, in order, and each had departed. -/
  final : answer = .ok (.ok ()) → ∃ earlier looked, sent = earlier ++ looked ∧
    List.Forall₂ (fun pod x => ∃ found, x.lookup? = some (pod, found) ∧
      Departed node pod found) pods looked ∧
    ∀ x ∈ looked, s.clock.nanos ≤ x.sentAt.nanos

/-- A wait for deletion evicts nobody. -/
theorem Watched.eviction?_eq_none {node : String} {pods : List Pod} {s s' : Session σ}
    {sent : List ApiExchange} {answer : Except Interruption (Except EvictionFault Unit)}
    (h : Watched node pods s sent answer s') :
    ∀ x ∈ sent, x.eviction? = none := by
  intro x hx
  obtain ⟨pod, found, hlookup⟩ := h.lookups x hx
  exact x.eviction?_of_lookup (by simp [hlookup])

/-- What a pass sends are look-ups. -/
theorem Passed.forall_lookup {node : String} {pods : List Pod} {s s' : Session σ}
    {looked : List ApiExchange} {left : List String} (h : Passed node pods s looked left s') :
    ∀ x ∈ looked, ∃ pod found, x.lookup? = some (pod, found) := by
  obtain ⟨-, hlookups, -, -⟩ := h
  induction hlookups with
  | nil => simp
  | cons hfirst _ ih =>
    obtain ⟨answer, hlookup, -⟩ := hfirst
    exact List.forall_mem_cons.2 ⟨⟨_, answer, hlookup⟩, ih⟩

/-- **Every wait is one.** -/
theorem watched_awaitFrom (api : ApiServer σ) (w : Watch) (fuel : Nat) (s : Session σ) :
    ∃ sent, Watched w.node w.pods s sent (awaitFrom api w fuel s).answer
      (awaitFrom api w fuel s).state := by
  induction fuel generalizing s with
  | zero => exact ⟨[], (List.append_nil _).symm, by simp, nofun⟩
  | succ fuel ih =>
    obtain ⟨looked, hpassed⟩ := passed_pass api w.node w.pods s
    rcases hpass : pass api w.node w.pods s with ⟨left, took, s₁⟩
    rw [hpass] at hpassed
    rw [awaitFrom, Exchange.bind_eq hpass]
    cases left with
    | nil =>
      refine ⟨looked, hpassed.log, hpassed.forall_lookup, fun _ =>
        ⟨[], looked, rfl, ?_, hpassed.later⟩⟩
      exact hpassed.lookups.imp fun pod x hx => by simpa using hx
    | cons key keys =>
      simp only
      split
      · exact ⟨looked, hpassed.log, hpassed.forall_lookup, nofun⟩
      · -- the next pass begins after this one, so what it finds last is later than the start of
        -- the wait
        rcases hsleep : Session.sleep w.pollInterval s₁ with ⟨⟨⟩, paused, s₂⟩
        obtain ⟨hlater, hlog⟩ := Session.sleep_eq hsleep
        rw [Exchange.bind_eq hsleep]
        obtain ⟨sent, hwatched⟩ := ih s₂
        have hclock : s.clock.nanos ≤ s₂.clock.nanos := by
          rw [hlater]
          exact Nat.le_trans hpassed.clock (Duration.le_afterPause s₁.clock w.pollInterval)
        refine ⟨looked ++ sent, ?_, ?_, fun hok => ?_⟩
        · exact hwatched.log.trans (by rw [← List.append_assoc, ← hpassed.log, hlog])
        · exact List.forall_mem_append.2 ⟨hpassed.forall_lookup, hwatched.lookups⟩
        · obtain ⟨earlier, last, rfl, hlast, hlater⟩ := hwatched.final hok
          refine ⟨looked ++ earlier, last, (List.append_assoc ..).symm, hlast, fun x hx => ?_⟩
          exact Nat.le_trans hclock (hlater x hx)

/-- **Every wait for deletion is one.** -/
theorem watched_await (api : ApiServer σ) (node : String) (pods : List Pod)
    (pollInterval timeout : Duration) (s : Session σ) :
    ∃ sent, Watched node pods s sent (await api node pods pollInterval timeout s).answer
      (await api node pods pollInterval timeout s).state := by
  rw [await]
  split
  · exact ⟨[], (List.append_nil _).symm, by simp, nofun⟩
  · rename_i deadline hlater
    exact watched_awaitFrom api { node, pods, pollInterval, timeout, deadline } _ s

end SpotRebalance.Deletion
