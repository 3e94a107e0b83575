import Mathlib.Data.List.Nodup
import SpotRebalance.Eviction.Board
import SpotRebalance.Proofs.Eviction.Attempts

/-! # The roster of a drain

The **roster** of a board lists every pod with what its worker does next; a pod that waits will get
a worker that attempts its eviction, and one that is done has a worker that left. Workers act in any
order, but each pod stays on the roster, and its entry follows from the answers that the log holds
for it (`Ledger`). One step of the board keeps that (`Sound.step`), so a whole run does
(`Sound.run`). -/

namespace SpotRebalance

universe u

variable {σ : Type u}

/-- **The log accounts for the roster**: each pod has one entry, which follows from the answers to
its evictions. -/
structure Ledger (task : EvictionTask) (pods : List Pod) (sent : List ApiExchange)
    (roster : List (Pod × WorkerStep)) : Prop where
  /-- The roster lists the pods. -/
  pods : (roster.map (·.1)).Perm pods
  /-- Each entry follows from the log. -/
  progress : ∀ entry ∈ roster, Progress task entry.1 (evictionAnswers sent entry.1) entry.2

namespace Ledger

variable {task : EvictionTask} {pods : List Pod} {sent : List ApiExchange}
  {roster roster' rest : List (Pod × WorkerStep)} {pod : Pod} {step step' : WorkerStep}

/-- Before anything is sent, every pod is to be attempted. -/
theorem fresh (task : EvictionTask) (pods : List Pod) :
    Ledger task pods [] (pods.map fun p => (p, .attempt none)) where
  pods := by simp [List.map_map, Function.comp_def]
  progress entry hentry := by
    obtain ⟨pod, -, rfl⟩ := List.mem_map.1 hentry
    exact .fresh

/-- Pods at different addresses have different entries. -/
theorem address_ne (h : Ledger task pods sent ((pod, step) :: rest))
    (hdistinct : (pods.map Pod.address).Nodup) :
    ∀ entry ∈ rest, entry.1.address ≠ pod.address := by
  have haddresses := (h.pods.map Pod.address).nodup_iff.2 hdistinct
  rw [List.map_cons, List.map_cons, List.nodup_cons] at haddresses
  intro entry hentry heq
  exact haddresses.1 (heq ▸ List.mem_map_of_mem (List.mem_map_of_mem hentry))

/-- An exchange for one pod answers no eviction of the others. -/
theorem evictionAnswers_of_others (h : Ledger task pods sent ((pod, step) :: rest))
    (hdistinct : (pods.map Pod.address).Nodup) {x : ApiExchange}
    (hx : ∀ other answer, x.eviction? = some (other, answer) → other = pod) :
    ∀ entry ∈ rest, evictionAnswers [x] entry.1 = [] := by
  intro entry hentry
  refine evictionAnswers_eq_nil fun y hy other answer hanswer heq => ?_
  rw [List.mem_singleton.1 hy] at hanswer
  rw [hx other answer hanswer] at heq
  exact h.address_ne hdistinct entry hentry heq.symm

/-- The order of the entries does not matter. -/
theorem perm (h : Ledger task pods sent roster) (hroster : roster'.Perm roster) :
    Ledger task pods sent roster' where
  pods := (hroster.map _).trans h.pods
  progress entry hentry := h.progress entry (hroster.mem_iff.1 hentry)

/-- **An exchange for one pod changes the entry of that pod only.** -/
theorem send (h : Ledger task pods sent ((pod, step) :: rest))
    (hdistinct : (pods.map Pod.address).Nodup) {x : ApiExchange}
    (hx : ∀ other answer, x.eviction? = some (other, answer) → other = pod)
    (hstep : Progress task pod (evictionAnswers (sent ++ [x]) pod) step') :
    Ledger task pods (sent ++ [x]) ((pod, step') :: rest) where
  pods := h.pods
  progress := by
    refine List.forall_mem_cons.2 ⟨hstep, fun entry hentry => ?_⟩
    rw [evictionAnswers_append, h.evictionAnswers_of_others hdistinct hx entry hentry,
      List.append_nil]
    exact h.progress entry (List.mem_cons_of_mem _ hentry)

/-- A worker may go on without an exchange. -/
theorem update (h : Ledger task pods sent ((pod, step) :: rest))
    (hstep : Progress task pod (evictionAnswers sent pod) step') :
    Ledger task pods sent ((pod, step') :: rest) where
  pods := h.pods
  progress :=
    List.forall_mem_cons.2 ⟨hstep, fun entry hentry =>
      h.progress entry (List.mem_cons_of_mem _ hentry)⟩

end Ledger

namespace Board

variable {api : ApiServer σ} {task : EvictionTask} {slots : Nat} {pods : List Pod} {b b' : Board σ}

/-- Every pod with what its worker does next. -/
def roster (b : Board σ) : List (Pod × WorkerStep) :=
  b.departures.map (fun d => (d.pod, .leave d.fault)) ++ b.active.map (fun w => (w.pod, w.step)) ++
    b.waiting.map fun e => (e.2, .attempt none)

/-! ## The next worker -/

/-- There is always a next worker, as long as there are workers. -/
theorem earliest?_eq_none_iff {workers : List Worker} :
    earliest? workers = none ↔ workers = [] := by
  cases workers with
  | nil => exact ⟨fun _ => rfl, fun _ => rfl⟩
  | cons first rest =>
    rw [earliest?]
    split
    · simp
    · split <;> simp

/-- The worker that acts next is one of them, and the others stay in order. -/
theorem earliest?_eq_some {workers others : List Worker} {w : Worker}
    (h : earliest? workers = some (w, others)) :
    ∃ before after, workers = before ++ w :: after ∧ others = before ++ after := by
  induction workers generalizing w others with
  | nil => cases h
  | cons first rest ih =>
    rw [earliest?] at h
    split at h
    · rename_i hnone
      cases h
      exact ⟨[], [], by rw [earliest?_eq_none_iff.1 hnone, List.nil_append], rfl⟩
    · rename_i next kept hnext
      obtain ⟨before, after, hrest, hkept⟩ := ih hnext
      split at h
      · cases h
        exact ⟨first :: before, after, by rw [hrest, List.cons_append], by
          rw [hkept, List.cons_append]⟩
      · cases h
        exact ⟨[], rest, rfl, rfl⟩

/-- The worker that acts next and the others are all the workers. -/
theorem earliest?_perm {workers others : List Worker} {w : Worker}
    (h : earliest? workers = some (w, others)) :
    workers.Perm (w :: others) := by
  obtain ⟨before, after, rfl, rfl⟩ := earliest?_eq_some h
  exact List.perm_middle

/-- The next worker is one that wakes earliest, and the work does not break off at it. -/
theorem next?_eq_some_iff {w : Worker} {others : List Worker} :
    b.next? = some (w, others) ↔ earliest? b.active = some (w, others) ∧ w.breaksOff = false := by
  rw [next?, Option.filter_eq_some_iff, Bool.not_eq_true']

/-- The next worker and the others are all the workers. -/
theorem next?_perm {w : Worker} {others : List Worker} (h : b.next? = some (w, others)) :
    b.active.Perm (w :: others) :=
  earliest?_perm (next?_eq_some_iff.1 h).1

/-- **The work on a board has broken off**: the worker that wakes first cannot set its deadline. -/
def BrokenOff (b : Board σ) : Prop :=
  ∃ w others, earliest? b.active = some (w, others) ∧ w.breaksOff

/-- **A board stops** when it has no workers, or when the work breaks off. -/
theorem step?_eq_none_iff : b.step? api task slots = none ↔ b.active = [] ∨ b.BrokenOff := by
  rw [step?, Option.map_eq_none_iff, next?, ← earliest?_eq_none_iff]
  cases hearliest : earliest? b.active with
  | none => simp
  | some next =>
    obtain ⟨w, others⟩ := next
    simp [BrokenOff, hearliest]

/-- The worker that acts next and the rest of the roster. -/
theorem roster_perm {w : Worker} {others : List Worker} (h : b.active.Perm (w :: others)) :
    b.roster.Perm ((w.pod, w.step) :: { b with active := others }.roster) := by
  have hactive :=
    ((h.map fun v => (v.pod, v.step)).append_left
      (b.departures.map fun d => (d.pod, .leave d.fault)))
  refine (hactive.append_right _).trans ?_
  rw [List.map_cons]
  exact List.perm_middle.append_right _

/-- The roster with a worker that has left. -/
theorem roster_departed (b : Board σ) (session : Session σ) (others : List Worker) (d : Departure) :
    { b with session, active := others, departures := b.departures ++ [d] }.roster.Perm
      ((d.pod, .leave d.fault) :: { b with active := others }.roster) := by
  simp only [roster, List.map_append, List.map_cons, List.map_nil, List.append_assoc,
    List.singleton_append]
  exact List.perm_middle

/-- Starting workers changes no entry. -/
@[simp] theorem roster_fill (b : Board σ) : (b.fill task slots).roster = b.roster := by
  have hstarted (free : Nat) :
      ((b.waiting.take free).map fun e => Worker.start task b.session.clock e.1 e.2).map
      (fun w => (w.pod, w.step)) = (b.waiting.take free).map fun e => (e.2, .attempt none) := by
    rw [List.map_map]
    rfl
  rw [roster, roster, fill]
  simp only [List.map_append, hstarted, List.append_assoc]
  rw [← List.map_append, List.take_append_drop]

/-! ## What steps keep -/

/-- Waiting does not set back the clock. -/
theorem clock_le_waitUntil (s : Session σ) (reading : Duration) :
    s.clock ≤ (s.waitUntil reading).clock := by
  change s.clock.nanos ≤ (max s.clock reading).nanos
  rw [Duration.nanos_max]
  exact Nat.le_max_left ..

/-- Waiting reaches the reading that is waited for. -/
theorem le_clock_waitUntil (s : Session σ) (reading : Duration) :
    reading ≤ (s.waitUntil reading).clock := by
  change reading.nanos ≤ (max s.clock reading).nanos
  rw [Duration.nanos_max]
  exact Nat.le_max_right ..

/-- **What every step keeps, a run keeps**, with what is sent on the way. -/
theorem run_extends {P : List ApiExchange → Board σ → Prop}
    (hstep : ∀ {sent b b'}, P sent b → b.step? api task slots = some b' → ∃ more,
      P (sent ++ more) b')
    {sent : List ApiExchange} (h : P sent b) (fuel : Nat) :
    ∃ more, P (sent ++ more) (run api task slots fuel b) := by
  induction fuel generalizing b sent with
  | zero => exact ⟨[], by rwa [List.append_nil]⟩
  | succ fuel ih =>
    rw [Board.run]
    split
    · exact ⟨[], by rwa [List.append_nil]⟩
    · rename_i b' hnext
      obtain ⟨first, hfirst⟩ := hstep h hnext
      obtain ⟨later, hlater⟩ := ih hfirst
      exact ⟨first ++ later, by rwa [← List.append_assoc]⟩

/-- What a worker sends is asked of the server. -/
theorem asked_act (api : ApiServer σ) (task : EvictionTask) (w : Worker) (s : Session σ) :
    ∃ sent, (w.act api task s).2.log = s.log ++ sent ∧ ∀ x ∈ sent, api.Asked x := by
  rw [Worker.act]
  split
  · exact ⟨[], (List.append_nil _).symm, by simp⟩
  · exact ⟨_, rfl, List.forall_mem_singleton.2 (api.asked_ask ..)⟩
  · split
    · exact ⟨[], (List.append_nil _).symm, by simp⟩
    · exact ⟨_, rfl, List.forall_mem_singleton.2 (api.asked_ask ..)⟩

/-- So is what is sent in a step of a board. -/
theorem asked_step? (hstep : b.step? api task slots = some b') :
    ∃ sent, b'.session.log = b.session.log ++ sent ∧ ∀ x ∈ sent, api.Asked x := by
  obtain ⟨⟨w, others⟩, -, rfl⟩ := Option.map_eq_some_iff.1 hstep
  obtain ⟨sent, hlog, hasked⟩ := asked_act api task w (b.session.waitUntil w.wake)
  refine ⟨sent, ?_, hasked⟩
  simp only
  generalize w.act api task (b.session.waitUntil w.wake) = acted at hlog
  obtain ⟨act, session⟩ := acted
  -- starting others sends nothing
  cases act with
  | sleeps => exact hlog
  | left => exact hlog

/-- **So is what is sent in a run.** -/
theorem asked_run (api : ApiServer σ) (task : EvictionTask) (slots fuel : Nat) (b : Board σ) :
    ∃ sent, (run api task slots fuel b).session.log = b.session.log ++ sent ∧
      ∀ x ∈ sent, api.Asked x := by
  let Asked (sent : List ApiExchange) (c : Board σ) : Prop :=
    c.session.log = b.session.log ++ sent ∧ ∀ x ∈ sent, api.Asked x
  have hstart : Asked [] b := ⟨(List.append_nil _).symm, by simp⟩
  refine run_extends (P := Asked) (fun {sent c c'} hasked hstep => ?_) hstart fuel
  obtain ⟨more, hlog, hmore⟩ := asked_step? hstep
  exact ⟨more, by rw [hlog, hasked.1, List.append_assoc],
    List.forall_mem_append.2 ⟨hasked.2, hmore⟩⟩

/-- **What has been sent from a board is sound**: it evicts listed pods and announces, nobody else
is asked for, the roster follows from it, and no answer is still to come but to workers that sleep
until then. -/
structure Sound (task : EvictionTask) (slots : Nat) (pods : List Pod)
    (earlier sent : List ApiExchange) (b : Board σ) : Prop where
  /-- The log holds it after what was there before. -/
  log : b.session.log = earlier ++ sent
  /-- The roster follows from it. -/
  ledger : Ledger task pods sent b.roster
  /-- It evicts pods of the list, or announces something. -/
  requests : ∀ x ∈ sent, (∃ pod ∈ pods, x.request = task.request pod) ∨
    ∃ event, x.request = .createEvent event
  /-- Answers have come, or a worker waits for them. -/
  answered : ∀ x ∈ sent, x.answeredAt.nanos ≤ b.session.clock.nanos ∨
    ∃ w ∈ b.active, x.answeredAt.nanos ≤ w.wake.nanos
  /-- No pod waits while there is a free slot. -/
  staffed : b.waiting = [] ∨ slots ≤ b.active.length

variable {earlier sent : List ApiExchange}

/-- Once there are workers for all free slots, nobody waits for one. -/
theorem staffed_fill (b : Board σ) :
    (b.fill task slots).waiting = [] ∨ slots ≤ (b.fill task slots).active.length := by
  simp only [fill, List.length_append, List.length_map, List.length_take, List.drop_eq_nil_iff]
  omega

/-- A pod only waits for a slot that a worker holds. -/
theorem waiting_eq_nil (hstaffed : b.waiting = [] ∨ slots ≤ b.active.length) (hslots : 0 < slots)
    (hended : b.active = []) : b.waiting = [] := by
  refine hstaffed.resolve_right fun hfull => ?_
  rw [hended, List.length_nil] at hfull
  omega

/-- Starting workers sends nothing. -/
theorem Sound.fill (hlog : b.session.log = earlier ++ sent)
    (hledger : Ledger task pods sent b.roster)
    (hrequests : ∀ x ∈ sent, (∃ pod ∈ pods, x.request = task.request pod) ∨ ∃ event,
      x.request = .createEvent event)
    (hanswered : ∀ x ∈ sent, x.answeredAt.nanos ≤ b.session.clock.nanos ∨
      ∃ w ∈ b.active, x.answeredAt.nanos ≤ w.wake.nanos) :
    Sound task slots pods earlier sent (b.fill task slots) where
  log := hlog
  ledger := hledger.perm (by rw [roster_fill])
  requests := hrequests
  answered x hx := (hanswered x hx).imp id fun ⟨w, hw, hle⟩ => ⟨w, List.mem_append_left _ hw, hle⟩
  staffed := b.staffed_fill

/-- The board of a list of pods is sound. -/
theorem sound_start (task : EvictionTask) (slots : Nat) (pods : List Pod) (session : Session σ) :
    Sound task slots pods session.log [] (start task slots pods session) := by
  refine Sound.fill (List.append_nil _).symm ?_ (by simp) (by simp)
  have hroster : ({ session, waiting := pods.zipIdx.map fun e => (e.2, e.1) } : Board σ).roster =
      pods.map fun p => (p, .attempt none) := by
    calc _ = (pods.zipIdx.map (·.1)).map fun p => (p, .attempt none) := by
            rw [roster, List.map_map, List.map_map]
            rfl
      _ = _ := by rw [List.zipIdx_map_fst]
  rw [hroster]
  exact .fresh task pods

section Step

variable {w w' : Worker} {others : List Worker}

/-- The worker that acts next has a pod of the list. -/
theorem Sound.mem_pods (h : Sound task slots pods earlier sent b)
    (hactive : b.active.Perm (w :: others)) :
    w.pod ∈ pods := by
  have hledger := h.ledger.perm (roster_perm hactive).symm
  exact hledger.pods.mem_iff.1 (by simp)

/-- When the next worker acts its answer has come, and of the others those that have not come are
still awaited. -/
theorem Sound.answered_waitUntil (h : Sound task slots pods earlier sent b)
    (hactive : b.active.Perm (w :: others)) :
    ∀ x ∈ sent, x.answeredAt.nanos ≤ (b.session.waitUntil w.wake).clock.nanos ∨
      ∃ v ∈ others, x.answeredAt.nanos ≤ v.wake.nanos := by
  intro x hx
  rw [Session.waitUntil, Duration.nanos_max]
  rcases h.answered x hx with hle | ⟨v, hv, hle⟩
  · exact Or.inl (Nat.le_trans hle (Nat.le_max_left ..))
  · rcases List.mem_cons.1 (hactive.mem_iff.1 hv) with rfl | hv
    · exact Or.inl (Nat.le_trans hle (Nat.le_max_right ..))
    · exact Or.inr ⟨v, hv, hle⟩

/-- A worker that sends a request of its own, and sleeps until it is answered, keeps the board
sound. -/
theorem Sound.sleeps (h : Sound task slots pods earlier sent b)
    (hdistinct : (pods.map Pod.address).Nodup) (hactive : b.active.Perm (w :: others))
    {x : ApiExchange} {session : Session σ} (hlog : session.log = b.session.log ++ [x])
    (hclock : session.clock = (b.session.waitUntil w.wake).clock)
    (hrequest : x.request = task.request w.pod ∨ ∃ event, x.request = .createEvent event)
    (hpod : w'.pod = w.pod) (hwake : x.answeredAt.nanos ≤ w'.wake.nanos)
    (hstep : Progress task w.pod (evictionAnswers (sent ++ [x]) w.pod) w'.step) :
    Sound task slots pods earlier (sent ++ [x]) { b with session, active := others ++ [w'] } where
  log := by rw [hlog, h.log, List.append_assoc]
  ledger := by
    have hledger := h.ledger.perm (roster_perm hactive).symm
    have hx : ∀ other answer, x.eviction? = some (other, answer) → other = w.pod := by
      intro other answer hx
      rcases hrequest with hrequest | ⟨event, hrequest⟩
      · obtain ⟨answer', heq⟩ := x.eviction?_of_request hrequest
        rw [heq] at hx
        cases hx
        rfl
      · rw [x.eviction?_of_createEvent hrequest] at hx
        cases hx
    have hsleeping : { b with session, active := others ++ [w'] }.roster.Perm
        ((w'.pod, w'.step) :: { b with active := others }.roster) :=
      roster_perm (List.perm_append_singleton ..)
    rw [hpod] at hsleeping
    exact (hledger.send hdistinct hx hstep).perm hsleeping
  requests := by
    have hlisted := h.mem_pods hactive
    simpa [or_imp, forall_and] using ⟨h.requests, hrequest.imp_left fun heq =>
      ⟨w.pod, hlisted, heq⟩⟩
  answered := by
    intro y hy
    rcases List.mem_append.1 hy with hy | hy
    · rw [hclock]
      exact (h.answered_waitUntil hactive y hy).imp_right fun ⟨v, hv, hle⟩ =>
        ⟨v, List.mem_append_left _ hv, hle⟩
    · rw [List.mem_singleton.1 hy]
      exact Or.inr ⟨w', by simp, hwake⟩
  staffed := by
    have hlength := hactive.length_eq
    simpa [hlength] using h.staffed

/-- A worker that leaves with what its answers say keeps the board sound. -/
theorem Sound.leaves (h : Sound task slots pods earlier sent b)
    (hactive : b.active.Perm (w :: others)) {fault : Option EvictionFault}
    (hstep : Progress task w.pod (evictionAnswers sent w.pod) (.leave fault)) :
    Sound task slots pods earlier sent (Board.fill task slots
      { b with
        session := b.session.waitUntil w.wake
        active := others
        departures := b.departures ++ [⟨w.index, w.pod, w.wake, fault⟩] }) := by
  refine Sound.fill h.log ?_ h.requests (h.answered_waitUntil hactive)
  exact ((h.ledger.perm (roster_perm hactive).symm).update hstep).perm (roster_departed ..)

end Step

/-- **A step keeps a board sound**, with what it sends. -/
theorem Sound.step (h : Sound task slots pods earlier sent b)
    (hdistinct : (pods.map Pod.address).Nodup) (hstep : b.step? api task slots = some b') :
    ∃ more, Sound task slots pods earlier (sent ++ more) b' := by
  obtain ⟨⟨w, others⟩, hnext, rfl⟩ := Option.map_eq_some_iff.1 hstep
  have hactive := next?_perm hnext
  have hprogress : Progress task w.pod (evictionAnswers sent w.pod) w.step :=
    (h.ledger.perm (roster_perm hactive).symm).progress _ List.mem_cons_self
  -- whatever the worker does, its entry is the only one that may change
  have hmoves := Worker.moves_act api task w (b.session.waitUntil w.wake)
  simp only
  generalize w.act api task (b.session.waitUntil w.wake) = out at hmoves ⊢
  cases hmoves with
  | @attempts last server answeredAt answer hattempt hdue hlater =>
    rw [hattempt] at hprogress
    refine ⟨_, h.sleeps hdistinct hactive rfl rfl (Or.inl rfl) (Worker.afterAnswer_pod answer)
      (Worker.le_wake_afterAnswer answer) ?_⟩
    rw [evictionAnswers_append, evictionAnswers_singleton_of_eviction rfl]
    exact Worker.progress_afterAnswer hprogress.tried answer
  | expires hattempt =>
    rw [hattempt] at hprogress
    refine ⟨[], ?_⟩
    rw [List.append_nil]
    exact h.leaves hactive hprogress.expire
  | @announces server answeredAt answer hannounce =>
    rw [hannounce] at hprogress
    refine ⟨_, h.sleeps hdistinct hactive rfl rfl (Or.inr ⟨_, rfl⟩) rfl (Nat.le_refl _) ?_⟩
    rw [evictionAnswers_append, evictionAnswers_eq_nil_of_quiet (List.forall_mem_singleton.2 rfl),
      List.append_nil]
    exact hprogress.announce
  | leaves hleave =>
    rw [hleave] at hprogress
    refine ⟨[], ?_⟩
    rw [List.append_nil]
    exact h.leaves hactive hprogress

/-- **A run keeps a board sound.** -/
theorem Sound.run (h : Sound task slots pods earlier sent b)
    (hdistinct : (pods.map Pod.address).Nodup) (fuel : Nat) :
    ∃ more, Sound task slots pods earlier (sent ++ more) (run api task slots fuel b) :=
  run_extends (fun hsound hstep => hsound.step hdistinct hstep) h fuel

end Board

end SpotRebalance
