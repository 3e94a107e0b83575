import SpotRebalance.Proofs.Eviction.Soundness

/-! # Deadlines of drains

A drain sets deadlines: one for each worker when it starts, and one for the wait for deletion when
all pods are evicted. The drain is interrupted at a deadline beyond the end of the clock, and
nowhere else: while the pods are evicted, if some worker starts too late for its deadline, or after
all of them were accepted, if the pods cannot be waited for (`emptyNode_eq_clockExhausted_iff`).

Workers start at different times, and the clock never goes back, so no worker has a deadline later
than the end of the evictions and the time for one (`Board.Timely`, `deadline_le_evictions`). A
worker whose deadline is too late never acts, so the evictions do not come to an end
(`deadline_le_clockEnd`). -/

namespace SpotRebalance

open Duration (clockEnd)

universe u

variable {σ : Type u}

/-! ## Workers -/

namespace Worker

variable {w : Worker}

/-- **The work breaks off at a worker** that is about to start and whose deadline the clock does not
reach. -/
theorem breaksOff_iff_late : w.breaksOff ↔ w.step = .attempt none ∧ ¬ w.deadline ≤ clockEnd := by
  rw [breaksOff, Duration.le_iff, Nat.not_le, ← Duration.lt_iff]
  cases w.step with
  | attempt last => cases last <;> simp
  | announce => simp
  | leave fault => simp

end Worker

namespace Board

variable {api : ApiServer σ} {task : EvictionTask} {slots : Nat} {b b' : Board σ}

/-- **The workers of a board are on time**: no deadline is further away than the time for an
eviction, and the clock reaches those that have been set. -/
structure Timely (task : EvictionTask) (b : Board σ) : Prop where
  /-- The time of each worker has begun. -/
  deadlines : ∀ w ∈ b.active, w.deadline ≤ b.session.clock + task.timeout
  /-- The clock reaches the deadlines of workers that have started. -/
  started : ∀ w ∈ b.active, w.step = .attempt none ∨ w.deadline ≤ clockEnd

/-- Workers that start are on time. -/
theorem Timely.fill (h : Timely task b) : Timely task (b.fill task slots) where
  deadlines := by
    refine List.forall_mem_append.2 ⟨h.deadlines, fun w hw => ?_⟩
    obtain ⟨entry, -, rfl⟩ := List.mem_map.1 hw
    exact Nat.le_refl _
  started := by
    refine List.forall_mem_append.2 ⟨h.started, fun w hw => ?_⟩
    obtain ⟨entry, -, rfl⟩ := List.mem_map.1 hw
    exact Or.inl rfl

/-- The board of a list of pods is on time. -/
theorem timely_start (task : EvictionTask) (slots : Nat) (pods : List Pod) (session : Session σ) :
    Timely task (start task slots pods session) :=
  Timely.fill ⟨by simp, by simp⟩

section Step

variable {w w' : Worker} {others : List Worker}

/-- The clock reaches the deadline of a worker that acts. -/
theorem Timely.deadline_of_next? (h : Timely task b) (hnext : b.next? = some (w, others)) :
    w.deadline ≤ clockEnd := by
  have hgoes := (next?_eq_some_iff.1 hnext).2
  rw [← Bool.not_eq_true, Worker.breaksOff_iff_late, not_and, not_not] at hgoes
  exact (h.started w ((next?_perm hnext).mem_iff.2 List.mem_cons_self)).elim hgoes id

/-- The deadlines of workers stay as near when the clock goes on. -/
theorem Timely.le_waitUntil (h : Timely task b) {v : Worker} (hv : v ∈ b.active)
    (reading : Duration) :
    v.deadline ≤ (b.session.waitUntil reading).clock + task.timeout :=
  Nat.le_trans (h.deadlines v hv) (Nat.add_le_add_right (clock_le_waitUntil ..) _)

/-- A worker that keeps its deadline and sleeps is still on time. -/
theorem Timely.sleeps (h : Timely task b) (hnext : b.next? = some (w, others)) {session : Session σ}
    (hclock : session.clock = (b.session.waitUntil w.wake).clock)
    (hdeadline : w'.deadline = w.deadline) :
    Timely task { b with session, active := others ++ [w'] } where
  deadlines := by
    simp only [hclock]
    refine List.forall_mem_append.2 ⟨fun v hv => ?_, List.forall_mem_singleton.2 ?_⟩
    · exact h.le_waitUntil ((next?_perm hnext).mem_iff.2 (List.mem_cons_of_mem _ hv)) _
    · rw [hdeadline]
      exact h.le_waitUntil ((next?_perm hnext).mem_iff.2 List.mem_cons_self) _
  started := by
    refine List.forall_mem_append.2 ⟨fun v hv => ?_, List.forall_mem_singleton.2 (Or.inr ?_)⟩
    · exact h.started v ((next?_perm hnext).mem_iff.2 (List.mem_cons_of_mem _ hv))
    · rw [hdeadline]
      exact h.deadline_of_next? hnext

/-- Workers that start in the place of one that leaves are on time. -/
theorem Timely.leaves (h : Timely task b) (hnext : b.next? = some (w, others))
    (departures : List Departure) :
    Timely task (Board.fill task slots
      { b with session := b.session.waitUntil w.wake, active := others, departures }) := by
  refine Timely.fill ⟨fun v hv => ?_, fun v hv => ?_⟩
  · exact h.le_waitUntil ((next?_perm hnext).mem_iff.2 (List.mem_cons_of_mem _ hv)) _
  · exact h.started v ((next?_perm hnext).mem_iff.2 (List.mem_cons_of_mem _ hv))

end Step

/-- **A step does not set back the clock, and keeps the workers on time.** -/
theorem Timely.step (h : Timely task b) (hstep : b.step? api task slots = some b') :
    b.session.clock ≤ b'.session.clock ∧ Timely task b' := by
  obtain ⟨⟨w, others⟩, hnext, rfl⟩ := Option.map_eq_some_iff.1 hstep
  have hmoves := Worker.moves_act api task w (b.session.waitUntil w.wake)
  have hclock := clock_le_waitUntil b.session w.wake
  simp only
  generalize w.act api task (b.session.waitUntil w.wake) = out at hmoves ⊢
  -- a worker keeps the deadline of its start, and another one starts only where one leaves
  cases hmoves with
  | attempts => exact ⟨hclock, h.sleeps hnext rfl (Worker.afterAnswer_deadline _)⟩
  | announces => exact ⟨hclock, h.sleeps hnext rfl rfl⟩
  | expires => exact ⟨hclock, h.leaves hnext _⟩
  | leaves => exact ⟨hclock, h.leaves hnext _⟩

/-- **A run does not set back the clock, and keeps the workers on time.** -/
theorem Timely.run (h : Timely task b) (fuel : Nat) :
    b.session.clock ≤ (Board.run api task slots fuel b).session.clock ∧
      Timely task (Board.run api task slots fuel b) := by
  induction fuel generalizing b with
  | zero => exact ⟨Nat.le_refl _, h⟩
  | succ fuel ih =>
    rw [Board.run]
    split
    · exact ⟨Nat.le_refl _, h⟩
    · rename_i b' hstep
      obtain ⟨hclock, h'⟩ := h.step hstep
      obtain ⟨hclock', hrun⟩ := ih h'
      exact ⟨Nat.le_trans hclock hclock', hrun⟩

/-- A run that is longer goes on from where the shorter one ends. -/
theorem exists_run (api : ApiServer σ) (task : EvictionTask) (slots : Nat) {fuel more : Nat}
    (hle : fuel ≤ more) (b : Board σ) :
    ∃ rest, run api task slots more b = run api task slots rest (run api task slots fuel b) := by
  induction fuel generalizing b more with
  | zero => exact ⟨more, rfl⟩
  | succ fuel ih =>
    obtain ⟨more, rfl⟩ : ∃ k, more = k + 1 := ⟨more - 1, by omega⟩
    rw [run, run]
    cases hstep : b.step? api task slots with
    | none => exact ⟨0, rfl⟩
    | some b' => exact ih (by omega) b'

/-- **A worker whose deadline is too late never acts**, so it is there after every step. -/
theorem Timely.late_step (h : Timely task b) {v : Worker} (hv : v ∈ b.active)
    (hlate : ¬ v.deadline ≤ clockEnd) (hstep : b.step? api task slots = some b') :
    v ∈ b'.active := by
  obtain ⟨⟨w, others⟩, hnext, rfl⟩ := Option.map_eq_some_iff.1 hstep
  -- the worker that acts reaches its deadline, so it is another one
  have hothers : v ∈ others := by
    rcases List.mem_cons.1 ((next?_perm hnext).mem_iff.1 hv) with rfl | hv
    · exact absurd (h.deadline_of_next? hnext) hlate
    · exact hv
  simp only
  rcases w.act api task (b.session.waitUntil w.wake) with ⟨w' | fault, session⟩
  · exact List.mem_append_left _ hothers
  · exact List.mem_append_left _ hothers

/-- So it is there after a run. -/
theorem Timely.late_run (h : Timely task b) {v : Worker} (hv : v ∈ b.active)
    (hlate : ¬ v.deadline ≤ clockEnd) (fuel : Nat) :
    v ∈ (Board.run api task slots fuel b).active := by
  induction fuel generalizing b with
  | zero => exact hv
  | succ fuel ih =>
    rw [Board.run]
    split
    · exact hv
    · rename_i b' hstep
      exact ih (h.step hstep).2 (h.late_step hv hlate hstep)

/-- **Where the work has broken off**, there is a worker whose deadline the clock does not reach. -/
theorem BrokenOff.exists_late (h : b.BrokenOff) : ∃ w ∈ b.active, ¬ w.deadline ≤ clockEnd := by
  obtain ⟨w, others, hnext, hbreaks⟩ := h
  exact ⟨w, (earliest?_perm hnext).mem_iff.2 List.mem_cons_self,
    (Worker.breaksOff_iff_late.1 hbreaks).2⟩

/-- Where the work has broken off nothing is done. -/
theorem BrokenOff.run_eq (h : b.BrokenOff) (fuel : Nat) : run api task slots fuel b = b := by
  have hnone : b.step? api task slots = none := step?_eq_none_iff.2 (Or.inr h)
  cases fuel with
  | zero => rfl
  | succ fuel => rw [run, hnone]

/-- Of workers that all break off, one is first. -/
theorem brokenOff_of_forall (hactive : b.active ≠ []) (h : ∀ w ∈ b.active, w.breaksOff) :
    b.BrokenOff := by
  cases hnext : earliest? b.active with
  | none => exact absurd (earliest?_eq_none_iff.1 hnext) hactive
  | some next =>
    obtain ⟨w, others⟩ := next
    exact ⟨w, others, hnext, h w ((earliest?_perm hnext).mem_iff.2 List.mem_cons_self)⟩

/-- **A board breaks off at its start** if the clock does not reach the first deadline. -/
theorem brokenOff_start {pods : List Pod} {session : Session σ} (hslots : 0 < slots)
    (hpods : pods ≠ []) (hlate : ¬ session.clock + task.timeout ≤ clockEnd) :
    (start task slots pods session).BrokenOff := by
  refine brokenOff_of_forall ?_ fun w hw => ?_
  · obtain ⟨pod, pods, rfl⟩ := List.exists_cons_of_ne_nil hpods
    obtain ⟨slots, rfl⟩ : ∃ k, slots = k + 1 := ⟨slots - 1, by omega⟩
    simp [start, Board.fill]
  · rw [start, Board.fill, List.nil_append] at hw
    obtain ⟨entry, -, rfl⟩ := List.mem_map.1 hw
    exact Worker.breaksOff_iff_late.2 ⟨rfl, hlate⟩

end Board

/-! ## Waiting for deletion -/

namespace Deletion

/-- Passes set no deadline. -/
theorem awaitFrom_ne_clockExhausted (api : ApiServer σ) (w : Watch) (fuel : Nat) (s : Session σ) :
    (awaitFrom api w fuel s).answer ≠ .error .clockExhausted := by
  induction fuel generalizing s with
  | zero =>
    intro hanswer
    cases hanswer
  | succ fuel ih =>
    rcases hpass : pass api w.node w.pods s with ⟨left, took, s₁⟩
    rw [awaitFrom, Exchange.bind_eq hpass]
    cases left with
    | nil =>
      intro hanswer
      cases hanswer
    | cons key keys =>
      simp only
      split
      · intro hanswer
        cases hanswer
      · rcases hsleep : Session.sleep w.pollInterval s₁ with ⟨⟨⟩, paused, s₂⟩
        rw [Exchange.bind_eq hsleep]
        exact ih s₂

/-- **A wait for deletion is interrupted at the end of the clock** exactly if its time leads beyond
it. -/
theorem await_eq_clockExhausted_iff (api : ApiServer σ) (node : String) (pods : List Pod)
    (pollInterval timeout : Duration) (s : Session σ) :
    (await api node pods pollInterval timeout s).answer = .error .clockExhausted ↔
      ¬ s.clock + timeout ≤ clockEnd := by
  rw [await]
  split
  · rename_i hnone
    exact iff_of_true rfl (Duration.later?_eq_none_iff.1 hnone)
  · rename_i deadline hsome
    refine iff_of_false (fun h => awaitFrom_ne_clockExhausted _ _ _ _ h) fun hlate => ?_
    rw [Duration.later?_eq_none_iff.2 hlate] at hsome
    cases hsome

end Deletion

/-! ## Drains -/

namespace ClusterApi

variable {api : ApiServer σ} {pacing : Pacing} {order : DrainOrder} {s : Session σ}

/-- **The evictions are interrupted at the end of the clock** exactly if the work on their board
breaks off. -/
theorem evictAll_eq_clockExhausted_iff :
    (evictAll api pacing order s).answer = .error .clockExhausted ↔
      (evictions api pacing order s).BrokenOff :=
  Board.result_eq_clockExhausted_iff

/-- **The evictions are interrupted at once**, and nothing is sent, if there are any and the clock
does not reach the first deadline. -/
theorem brokenOff_evictions (api : ApiServer σ) (pacing : Pacing) (s : Session σ)
    (hpods : order.pods ≠ []) (hlate : ¬ s.clock + order.evictionTimeout ≤ clockEnd) :
    (evictions api pacing order s).BrokenOff ∧ (evictions api pacing order s).session = s := by
  have hbroken : (Board.start (evictionTask pacing order) pacing.concurrency order.pods
      s).BrokenOff :=
    Board.brokenOff_start pacing.concurrency_pos hpods hlate
  rw [evictions, hbroken.run_eq]
  exact ⟨hbroken, rfl⟩

/-- **The wait for departures is interrupted at the end of the clock** exactly if the grace period
and the headroom lead beyond it. -/
theorem awaitDeparture_eq_clockExhausted_iff :
    (awaitDeparture api pacing order s).answer = .error .clockExhausted ↔
      ¬ s.clock + (order.gracePeriod + pacing.headroom) ≤ clockEnd := by
  rw [awaitDeparture]
  cases htimeout : order.gracePeriod.add? pacing.headroom with
  | none => exact iff_of_true rfl (Duration.add?_eq_none htimeout _)
  | some timeout =>
    rw [← Duration.add?_eq_some htimeout]
    exact Deletion.await_eq_clockExhausted_iff ..

/-- **When a drain is interrupted at the end of the clock**: while the pods are evicted, or after
all were accepted, if the pods cannot be waited for. -/
theorem emptyNode_eq_clockExhausted_iff :
    (emptyNode api pacing order s).answer = .error .clockExhausted ↔
      (evictions api pacing order s).BrokenOff ∨
      ((evictions api pacing order s).result = .ok (.ok ()) ∧
        ¬ (evictions api pacing order s).session.clock + (order.gracePeriod + pacing.headroom) ≤
          clockEnd) := by
  rw [← Board.result_eq_clockExhausted_iff]
  rcases emptyNode_cases api pacing order s with
    ⟨why, hresult, hanswer, -⟩ | ⟨fault, hresult, hanswer, -⟩ | ⟨hresult, hanswer, -⟩
  · simp [hresult, hanswer]
  · simp [hresult, hanswer]
  · rw [hanswer, awaitDeparture_eq_clockExhausted_iff]
    simp [hresult]

/-- A drain is interrupted if emptying the node is. -/
theorem drain_eq_error_iff {why : Interruption} :
    (drain api pacing order s).answer = .error why ↔
      (emptyNode api pacing order (Session.announce api (drainStarted order) s).state).answer =
        .error why := by
  rw [answer_drain]
  cases (emptyNode api pacing order (Session.announce api (drainStarted order) s).state).answer <;>
    simp [Except.map]

/-- The board of a drain after a number of steps. -/
def boardAfter (api : ApiServer σ) (pacing : Pacing) (order : DrainOrder) (steps : Nat)
    (s : Session σ) : Board σ :=
  Board.run api (evictionTask pacing order) pacing.concurrency steps
    (Board.start (evictionTask pacing order) pacing.concurrency order.pods s)

/-- The workers are on time after every step. -/
theorem timely_boardAfter (api : ApiServer σ) (pacing : Pacing) (order : DrainOrder) (steps : Nat)
    (s : Session σ) :
    (boardAfter api pacing order steps s).Timely (evictionTask pacing order) :=
  ((Board.timely_start ..).run steps).2

/-- **No worker has a deadline later** than the present and the time for an eviction. -/
theorem deadline_le_boardAfter {steps : Nat} :
    ∀ w ∈ (boardAfter api pacing order steps s).active,
      w.deadline ≤ (boardAfter api pacing order steps s).session.clock + order.evictionTimeout :=
  (timely_boardAfter api pacing order steps s).deadlines

section Steps

variable {steps : Nat} (hsteps : steps ≤ Board.mostSteps (evictionTask pacing order) order.pods)

include hsteps

/-- The evictions go on from each step. -/
theorem exists_evictions_eq (api : ApiServer σ) (s : Session σ) :
    ∃ rest, evictions api pacing order s =
      Board.run api (evictionTask pacing order) pacing.concurrency rest
        (boardAfter api pacing order steps s) :=
  Board.exists_run _ _ _ hsteps _

/-- **No worker has a deadline later** than the end of the evictions and the time for one, whenever
it started. -/
theorem deadline_le_evictions (api : ApiServer σ) (s : Session σ) :
    ∀ w ∈ (boardAfter api pacing order steps s).active,
      w.deadline ≤ (evictions api pacing order s).session.clock + order.evictionTimeout := by
  intro w hw
  obtain ⟨rest, hrest⟩ := exists_evictions_eq hsteps api s
  have hclock : (boardAfter api pacing order steps s).session.clock ≤
      (evictions api pacing order s).session.clock := by
    rw [hrest]
    exact ((timely_boardAfter api pacing order steps s).run rest).1
  exact Nat.le_trans (deadline_le_boardAfter w hw) (Nat.add_le_add_right hclock _)

/-- **Evictions that come to an end had no worker whose deadline was too late.** -/
theorem deadline_le_clockEnd (hended : (evictions api pacing order s).active = []) :
    ∀ w ∈ (boardAfter api pacing order steps s).active, w.deadline ≤ clockEnd := by
  intro w hw
  by_contra hlate
  obtain ⟨rest, hrest⟩ := exists_evictions_eq hsteps api s
  have hstays : w ∈ (evictions api pacing order s).active := by
    rw [hrest]
    exact (timely_boardAfter api pacing order steps s).late_run hw hlate rest
  rw [hended] at hstays
  cases hstays

end Steps

/-- **The evictions have their deadlines** if the clock still has room for one when they end. -/
theorem not_brokenOff_evictions {last : Duration}
    (hend : (evictions api pacing order s).session.clock ≤ last)
    (heviction : last + order.evictionTimeout ≤ clockEnd) :
    ¬ (evictions api pacing order s).BrokenOff := by
  intro hbroken
  obtain ⟨w, hw, hlate⟩ := hbroken.exists_late
  have hdeadline := deadline_le_evictions (Nat.le_refl _) api s w hw
  exact hlate (Nat.le_trans hdeadline (Duration.add_le_clockEnd hend heviction))

/-- **A drain has its deadlines** if the clock still has room for both spans when the evictions
end. -/
theorem emptyNode_ne_clockExhausted {last : Duration}
    (hend : (evictions api pacing order s).session.clock ≤ last)
    (heviction : last + order.evictionTimeout ≤ clockEnd)
    (hdeparture : last + (order.gracePeriod + pacing.headroom) ≤ clockEnd) :
    (emptyNode api pacing order s).answer ≠ .error .clockExhausted := by
  intro hexhausted
  rcases emptyNode_eq_clockExhausted_iff.1 hexhausted with hbroken | ⟨-, hlate⟩
  · exact not_brokenOff_evictions hend heviction hbroken
  · exact hlate (Duration.add_le_clockEnd hend hdeparture)

end ClusterApi

end SpotRebalance
