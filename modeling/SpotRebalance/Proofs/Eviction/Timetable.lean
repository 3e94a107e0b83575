import Mathlib.Algebra.Order.BigOperators.Group.List
import Mathlib.Data.List.Perm.Basic
import SpotRebalance.Proofs.Eviction.Completion
import SpotRebalance.Proofs.Eviction.Course
import SpotRebalance.Proofs.Eviction.Departures

/-! # The timetable of a drain

The workers of a board send their requests in between each other's, but if the server answers
without delay each pod keeps to its course (`EvictionCourse.Keeps`). So the log of a board is the
courses of its pods, shuffled (`Timetable`), and the first fault in time is what the board comes to.
One step of the board extends the course of one pod (`Scheduled.step`). -/

namespace SpotRebalance

universe u

open Duration (OnBeat)

variable {σ : Type u}

/-- **The timetable of evictions**: what was sent, what came of it and when, pod by pod. -/
structure Timetable (task : EvictionTask) (ρ : Rhythm) (pods : List Pod) (sent : List ApiExchange)
    (result : Except EvictionFault Unit) (endedAt : Duration)
    (courses : List EvictionCourse) : Prop where
  /-- Each pod has its course. -/
  pods : (courses.map (·.pod)).Perm pods
  /-- Each course keeps to its times. -/
  keeps : ∀ c ∈ courses, c.Keeps task ρ
  /-- What was sent belongs to the courses. -/
  whole : sent.Perm (courses.flatMap (·.sent))
  /-- Each course was sent in its order. -/
  order : ∀ c ∈ courses, c.sent.Sublist sent
  /-- The evictions do not end before the last worker has left. -/
  ended : ∀ c ∈ courses, c.leftAt ≤ endedAt
  /-- They succeed if no course has a fault. -/
  success : result = .ok () ↔ ∀ c ∈ courses, c.fault = none
  /-- Otherwise they come to the first fault in time. -/
  failure : ∀ fault, result = .error fault →
    ∃ c ∈ courses, c.fault = some fault ∧ ∀ other ∈ courses, other.fault ≠ none →
      c.leftAt ≤ other.leftAt

namespace Timetable

variable {task : EvictionTask} {ρ : Rhythm} {pods : List Pod} {sent : List ApiExchange}
  {result : Except EvictionFault Unit} {endedAt : Duration} {courses : List EvictionCourse}

/-- **The number of evictions is bounded.** -/
theorem countP_eviction_le (h : Timetable task ρ pods sent result endedAt courses)
    (hretry : 0 < task.retryInterval.nanos) : sent.countP (·.eviction?.isSome) ≤
      pods.length * max 1 (task.timeout.nanos ⌈/⌉ task.retryInterval.nanos) := by
  have hcourses : ∀ n ∈ courses.map fun c => c.sent.countP (·.eviction?.isSome),
      n ≤ max 1 (task.timeout.nanos ⌈/⌉ task.retryInterval.nanos) := by
    intro n hn
    obtain ⟨c, hc, rfl⟩ := List.mem_map.1 hn
    exact (h.keeps c hc).countP_eviction_le.trans (EvictionTask.mostAttempts_le hretry ..)
  have hlength : courses.length = pods.length := by
    rw [← h.pods.length_eq, List.length_map]
  have hsum := List.sum_le_card_nsmul _ _ hcourses
  rw [List.length_map, hlength, smul_eq_mul] at hsum
  rw [h.whole.countP_eq, List.countP_flatMap]
  exact hsum

/-- Nobody is looked up. -/
theorem countP_lookup (h : Timetable task ρ pods sent result endedAt courses) :
    sent.countP (·.lookup?.isSome) = 0 := by
  rw [List.countP_eq_zero]
  intro x hx
  obtain ⟨c, hc, hx⟩ := List.mem_flatMap.1 (h.whole.mem_iff.1 hx)
  simp [(h.keeps c hc).lookup?_eq_none x hx]

/-- **A timetable of timers is even** if all courses start at whole milliseconds, with pauses
rounded up. -/
theorem even (h : Timetable task .timers pods sent result endedAt courses)
    (hretry : 0 < task.retryInterval.nanos)
    (hstarts : ∀ c ∈ courses, Duration.millisecond ∣ c.start.nanos) :
    Timetable { task with retryInterval := task.retryInterval.wholeMillis } .even pods sent result
      endedAt courses where
  pods := h.pods
  keeps c hc := (h.keeps c hc).congr (Rhythm.timers_after (hstarts c hc) _).symm
    (Rhythm.timers_filling (hstarts c hc) hretry _).symm
  whole := h.whole
  order := h.order
  ended := h.ended
  success := h.success
  failure := h.failure

end Timetable

/-! ## Shuffled logs -/

/-- **What was sent is shuffled** from what was sent for each pod, which follows from the stage of
the pod. -/
def Tracked (task : EvictionTask) (began : Duration) (sent : List ApiExchange)
    (stages : List Stage) : Prop :=
  ∃ owns, List.Forall₂ (Follows task began) stages owns ∧ sent.Perm owns.flatten ∧
    ∀ own ∈ owns, own.Sublist sent

namespace Tracked

variable {task : EvictionTask} {began : Duration} {sent more : List ApiExchange}
  {stages stages' : List Stage} {stage stage' : Stage}

/-- The order of the pods does not matter. -/
theorem perm (h : Tracked task began sent stages) (hstages : stages'.Perm stages) :
    Tracked task began sent stages' := by
  obtain ⟨owns, hfollows, hwhole, horder⟩ := h
  obtain ⟨owns', hfollows', howns⟩ := List.perm_comp_forall₂ hstages hfollows
  exact ⟨owns', hfollows', hwhole.trans howns.flatten.symm,
    fun own hown => horder own (howns.mem_iff.1 hown)⟩

/-- Each pod has what was sent for it. -/
theorem exists_follows (h : Tracked task began sent (stage :: stages)) :
    ∃ own, Follows task began stage own := by
  obtain ⟨_, hfollows, -⟩ := h
  cases hfollows with
  | cons hfirst => exact ⟨_, hfirst⟩

/-- **What is sent for one pod follows what was sent for it.** -/
theorem step (h : Tracked task began sent (stage :: stages)) {log log' : List ApiExchange}
    (hstep : ∀ own, Follows task began stage own →
      ∃ more, log' = log ++ more ∧ Follows task began stage' (own ++ more)) :
    ∃ more, log' = log ++ more ∧ Tracked task began (sent ++ more) (stage' :: stages) := by
  obtain ⟨owns, hfollows, hwhole, horder⟩ := h
  cases hfollows with
  | @cons _ own _ owns hfirst hrest =>
    obtain ⟨more, hlog, hnext⟩ := hstep own hfirst
    rw [List.forall_mem_cons] at horder
    refine ⟨more, hlog, (own ++ more) :: owns, .cons hnext hrest, ?_,
      List.forall_mem_cons.2 ⟨?_, fun other hother => ?_⟩⟩
    · refine (hwhole.append_right more).trans ?_
      rw [List.flatten_cons, List.flatten_cons, List.append_assoc, List.append_assoc]
      exact List.perm_append_comm.append_left own
    · exact horder.1.append_right more
    · exact (horder.2 other hother).trans (List.sublist_append_left sent more)

/-- Stages may change if nothing is sent. -/
theorem imp (h : Tracked task began sent stages)
    (hstages : List.Forall₂
      (fun stage' stage => ∀ own, Follows task began stage own → Follows task began stage' own)
      stages' stages) : Tracked task began sent stages' := by
  obtain ⟨owns, hfollows, hwhole, horder⟩ := h
  refine ⟨owns, ?_, hwhole, horder⟩
  clear hwhole horder
  induction hstages generalizing owns with
  | nil => exact hfollows
  | cons himp _ ih =>
    cases hfollows with
    | cons hfirst hrest => exact .cons (himp _ hfirst) (ih _ hrest)

/-- Nothing was sent for pods that wait. -/
theorem waits (task : EvictionTask) (began : Duration) (pods : List Pod) :
    Tracked task began [] (pods.map .waits) := by
  refine ⟨pods.map fun _ => [], ?_, by simp, by simp⟩
  rw [List.forall₂_map_left_iff, List.forall₂_map_right_iff, List.forall₂_same]
  exact fun _ _ => .waits

end Tracked

namespace Board

variable {api : ApiServer σ} {task : EvictionTask} {slots : ℕ} {pods : List Pod} {b b' : Board σ}
  {began : Duration} {earlier sent : List ApiExchange}

/-- The stage of every pod. -/
def stages (b : Board σ) : List Stage :=
  b.departures.map .left ++ b.active.map .works ++ b.waiting.map fun e => .waits e.2

/-- The worker that acts next and the other stages. -/
theorem stages_perm {w : Worker} {others : List Worker} (h : b.active.Perm (w :: others)) :
    b.stages.Perm (.works w :: { b with active := others }.stages) := by
  refine (((h.map Stage.works).append_left (b.departures.map Stage.left)).append_right _).trans ?_
  rw [List.map_cons]
  exact List.perm_middle.append_right _

/-- **A board is on schedule**: what it has sent is shuffled from the courses of its pods, as far as
they have got, and its clock shows a reading of work that began at a reading. -/
structure Scheduled (task : EvictionTask) (slots : ℕ) (pods : List Pod) (began : Duration)
    (earlier sent : List ApiExchange) (b : Board σ) : Prop where
  /-- The log holds what was sent after what was there before. -/
  log : b.session.log = earlier ++ sent
  /-- The clock goes on when timers go off. -/
  clock : OnBeat began b.session.clock
  /-- What was sent follows from the stages of the pods. -/
  tracked : Tracked task began sent b.stages
  /-- Each pod has its stage. -/
  pods : (b.stages.map Stage.pod).Perm pods
  /-- Workers left no later than now. -/
  left : ∀ d ∈ b.departures, d.leftAt ≤ b.session.clock
  /-- No pod waits while there is a free slot. -/
  staffed : b.waiting = [] ∨ slots ≤ b.active.length

/-- Workers that start have sent nothing. -/
theorem Scheduled.fill (hlog : b.session.log = earlier ++ sent)
    (hclock : OnBeat began b.session.clock) (htracked : Tracked task began sent b.stages)
    (hpods : (b.stages.map Stage.pod).Perm pods)
    (hleft : ∀ d ∈ b.departures, d.leftAt ≤ b.session.clock) :
    Scheduled task slots pods began earlier sent (b.fill task slots) := by
  let free := slots - b.active.length
  have hstages : b.stages = b.departures.map .left ++ b.active.map .works ++
      (((b.waiting.take free).map fun e => .waits e.2) ++ (b.waiting.drop free).map fun e =>
        .waits e.2) := by
    rw [← List.map_append, List.take_append_drop]
    rfl
  have hfilled : (b.fill task slots).stages = b.departures.map .left ++ b.active.map .works ++
      (((b.waiting.take free).map fun e => .works (.start task b.session.clock e.1 e.2)) ++
        (b.waiting.drop free).map fun e => .waits e.2) := by
    simp only [stages, Board.fill, List.map_append, List.map_map, List.append_assoc]
    rfl
  refine ⟨hlog, hclock, htracked.imp ?_, ?_, hleft, staffed_fill b⟩
  · have hsame (stages : List Stage) : List.Forall₂
        (fun stage' stage => ∀ own, Follows task began stage own → Follows task began stage' own)
        stages stages :=
      List.forall₂_same.2 fun _ _ _ h => h
    rw [hstages, hfilled]
    refine List.rel_append (hsame _) (List.rel_append ?_ (hsame _))
    rw [List.forall₂_map_left_iff, List.forall₂_map_right_iff, List.forall₂_same]
    intro e _ own hwaits
    cases hwaits
    exact .begins hclock ..
  · have hsamePods : (b.fill task slots).stages.map Stage.pod = b.stages.map Stage.pod := by
      rw [hstages, hfilled]
      simp only [List.map_append, List.map_map]
      rfl
    rw [hsamePods]
    exact hpods

/-- The board of a list of pods is on schedule. -/
theorem scheduled_start (task : EvictionTask) (slots : ℕ) (pods : List Pod) (session : Session σ) :
    Scheduled task slots pods session.clock session.log [] (start task slots pods session) := by
  have hstages : ({ session, waiting := pods.zipIdx.map fun e => (e.2, e.1) } : Board σ).stages =
      pods.map .waits := by
    calc _ = (pods.zipIdx.map (·.1)).map Stage.waits := by
            rw [stages, List.map_map, List.map_map]
            rfl
      _ = _ := by rw [List.zipIdx_map_fst]
  refine Scheduled.fill (List.append_nil _).symm (.refl _) ?_ ?_ (by simp)
  · rw [hstages]
    exact .waits task _ pods
  · rw [hstages, List.map_map]
    exact List.Perm.of_eq (List.map_id pods)

/-- **A step keeps a board on schedule.** -/
theorem Scheduled.step (h : Scheduled task slots pods began earlier sent b) (hprompt : api.Prompt)
    (hretry : 0 < task.retryInterval.nanos) (hstep : b.step? api task slots = some b') :
    ∃ more, Scheduled task slots pods began earlier (sent ++ more) b' := by
  obtain ⟨⟨w, others⟩, hnext, rfl⟩ := Option.map_eq_some_iff.1 hstep
  have hactive := next?_perm hnext
  have hperm := stages_perm hactive
  have hmoves := Worker.moves_act api task w (b.session.waitUntil w.wake)
  simp only
  generalize w.act api task (b.session.waitUntil w.wake) = out at hmoves ⊢
  -- only the pod of this worker gets on
  have hworks := h.tracked.perm hperm.symm
  obtain ⟨more, hlog, htracked⟩ :=
    hworks.step fun own hfollows => hfollows.moves hprompt hretry hmoves
  have hpods : ((Stage.after w out.1 :: { b with active := others }.stages).map Stage.pod).Perm
    pods := by
    rw [List.map_cons, hmoves.pod_after]
    exact (hperm.map Stage.pod).symm.trans h.pods
  have hnow : out.2.clock = (b.session.waitUntil w.wake).clock := by
    cases hmoves <;> rfl
  have hclock : OnBeat began out.2.clock := by
    obtain ⟨own, hfollows⟩ := hworks.exists_follows
    rw [hnow]
    exact h.clock.max hfollows.onBeat
  have hearlier : out.2.log = earlier ++ (sent ++ more) := by
    rw [hlog, ← List.append_assoc, ← h.log]
    rfl
  have hleft : ∀ d ∈ b.departures, d.leftAt ≤ out.2.clock := by
    intro d hd
    rw [hnow]
    exact Nat.le_trans (h.left d hd) (clock_le_waitUntil ..)
  obtain ⟨act, session⟩ := out
  cases act with
  | sleeps w' =>
    have hstages : { b with session, active := others ++ [w'] }.stages.Perm
        (.works w' :: { b with active := others }.stages) :=
      stages_perm (b := { b with session, active := others ++ [w'] })
        (List.perm_append_singleton ..)
    refine ⟨more, hearlier, hclock, htracked.perm hstages, (hstages.map _).trans hpods, hleft, ?_⟩
    have hlength := hactive.length_eq
    simpa [hlength] using h.staffed
  | left fault =>
    have hstages : ({ b with
        session
        active := others
        departures := b.departures ++ [⟨w.index, w.pod, w.wake, fault⟩] } : Board σ).stages.Perm
        (.left ⟨w.index, w.pod, w.wake, fault⟩ :: { b with active := others }.stages) := by
      simp only [stages, List.map_append, List.map_cons, List.map_nil, List.append_assoc,
        List.singleton_append]
      exact List.perm_middle
    refine ⟨more, Scheduled.fill hearlier hclock (htracked.perm hstages)
      ((hstages.map _).trans hpods) ?_⟩
    refine List.forall_mem_append.2 ⟨hleft, List.forall_mem_singleton.2 ?_⟩
    change w.wake ≤ session.clock
    rw [hnow]
    exact le_clock_waitUntil ..

/-- **A run keeps a board on schedule.** -/
theorem Scheduled.run (h : Scheduled task slots pods began earlier sent b) (hprompt : api.Prompt)
    (hretry : 0 < task.retryInterval.nanos) (fuel : ℕ) :
    ∃ more, Scheduled task slots pods began earlier (sent ++ more) (run api task slots fuel b) :=
  run_extends (fun hscheduled hstep => hscheduled.step hprompt hretry hstep) h fuel

/-- Workers that have left have their courses. -/
theorem exists_courses {departures : List Departure} {owns : List (List ApiExchange)}
    (h : List.Forall₂ (Follows task began) (departures.map .left) owns) :
    ∃ courses : List EvictionCourse, courses.map (·.sent) = owns ∧
      (∀ c ∈ courses, c.Keeps task .timers ∧ OnBeat began c.start) ∧
      courses.map (·.pod) = departures.map (·.pod) ∧
      courses.map (fun c => (c.leftAt, c.fault)) = departures.map fun d => (d.leftAt, d.fault) := by
  rw [List.forall₂_map_left_iff] at h
  induction h with
  | nil => exact ⟨[], rfl, by simp, rfl, rfl⟩
  | @cons d own departures owns hfirst _ ih =>
    obtain ⟨courses, hsent, hkeeps, hpods, hends⟩ := ih
    cases hfirst with
    | @left _ start _ hstart hkeep =>
      refine ⟨⟨d.pod, start, own, d.leftAt, d.fault⟩ :: courses, ?_,
        List.forall_mem_cons.2 ⟨⟨hkeep, hstart⟩, hkeeps⟩, ?_, ?_⟩
      · rw [List.map_cons, hsent]
      · rw [List.map_cons, List.map_cons, hpods]
      · rw [List.map_cons, List.map_cons, hends]

/-- When all workers have left, no pod waits for one. -/
theorem Scheduled.stages_eq (h : Scheduled task slots pods began earlier sent b)
    (hslots : 0 < slots) (hended : b.active = []) : b.stages = b.departures.map .left := by
  rw [stages, hended, waiting_eq_nil h.staffed hslots hended, List.map_nil, List.map_nil,
    List.append_nil, List.append_nil]

/-- **When all workers have left, the timetable of the board is complete**, and all courses started
at readings of its work. -/
theorem Scheduled.timetable (h : Scheduled task slots pods began earlier sent b)
    (hslots : 0 < slots) (hended : b.active = []) :
    ∃ courses, Timetable task .timers pods sent (verdict b.departures) b.session.clock courses ∧
      ∀ c ∈ courses, OnBeat began c.start := by
  obtain ⟨owns, hfollows, hwhole, horder⟩ := h.tracked
  have hpods := h.pods
  rw [h.stages_eq hslots hended] at hfollows hpods
  obtain ⟨courses, rfl, hkeeps, hcoursePods, hends⟩ := exists_courses hfollows
  -- a course has the end of a worker, and the other way round
  have hdeparture : ∀ c ∈ courses, ∃ d ∈ b.departures, d.leftAt = c.leftAt ∧ d.fault = c.fault := by
    intro c hc
    have hmem := hends ▸ List.mem_map_of_mem (f := fun c : EvictionCourse => (c.leftAt, c.fault)) hc
    obtain ⟨d, hd, heq⟩ := List.mem_map.1 hmem
    exact ⟨d, hd, Prod.mk.inj heq⟩
  have hcourse : ∀ d ∈ b.departures, ∃ c ∈ courses, c.leftAt = d.leftAt ∧ c.fault = d.fault := by
    intro d hd
    have hmem := hends ▸ List.mem_map_of_mem (f := fun d : Departure => (d.leftAt, d.fault)) hd
    obtain ⟨c, hc, heq⟩ := List.mem_map.1 hmem
    exact ⟨c, hc, Prod.mk.inj heq⟩
  refine ⟨courses, ⟨?_, fun c hc => (hkeeps c hc).1, ?_, ?_, ?_,
    verdict_eq_ok_iff.trans ⟨fun hnone c hc => ?_, fun hnone d hd => ?_⟩, fun fault hfault => ?_⟩,
    fun c hc => (hkeeps c hc).2⟩
  · rw [hcoursePods]
    simpa [List.map_map, Function.comp_def, Stage.pod] using hpods
  · rwa [List.flatMap_def]
  · exact fun c hc => horder _ (List.mem_map_of_mem hc)
  · intro c hc
    obtain ⟨d, hd, hleft, -⟩ := hdeparture c hc
    exact hleft ▸ h.left d hd
  · obtain ⟨d, hd, -, hsame⟩ := hdeparture c hc
    exact hsame ▸ hnone d hd
  · obtain ⟨c, hc, -, hsame⟩ := hcourse d hd
    exact hsame ▸ hnone c hc
  · obtain ⟨d, hd, hdfault, hearliest⟩ := exists_of_verdict_eq_error hfault
    obtain ⟨c, hc, hleft, hsame⟩ := hcourse d hd
    refine ⟨c, hc, hsame.trans hdfault, fun other hother hne => ?_⟩
    obtain ⟨d', hd', hleft', hfault'⟩ := hdeparture other hother
    rw [hleft, ← hleft']
    exact hearliest d' hd' (hfault' ▸ hne)

end Board

end SpotRebalance
