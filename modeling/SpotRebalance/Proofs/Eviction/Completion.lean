import Mathlib.Algebra.GroupWithZero.Nat
import SpotRebalance.Proofs.Eviction.Roster

/-! # All workers leave

Between attempts a worker pauses, so that its time is up after a number of them. Its **rank** bounds
the steps that it still makes; it falls with every step (`Worker.Moves.rank_lt`), and so does the
rank of the board, which also counts the pods that wait (`Board.rank_step?`). A board that is run
for as many steps as its rank has no workers left, unless the work has broken off
(`Board.ended_run`). -/

namespace SpotRebalance

universe u

variable {σ : Type u} {task : EvictionTask}

namespace Worker

/-- How many pauses fit in before the time of a worker is up. -/
def pauses (task : EvictionTask) (w : Worker) : Nat :=
  (w.deadline.nanos - w.wake.nanos) / task.retryInterval.nanos

/-- **How many steps a worker makes at most.** An attempt that follows a refusal is not made when
the time is up. -/
def rank (task : EvictionTask) (w : Worker) : Nat :=
  match w.step with
  | .attempt none => w.pauses task + 4
  | .attempt (some _) => if w.deadline ≤ w.wake then 1 else w.pauses task + 3
  | .announce => 2
  | .leave _ => 1

/-- Every worker makes a step. -/
theorem rank_pos (task : EvictionTask) (w : Worker) : 0 < w.rank task := by
  rw [rank]
  split
  · omega
  · split <;> omega
  · omega
  · omega

/-- What a worker that makes an attempt has before it. -/
theorem le_rank_of_attempt {w : Worker} {last : Option ClientError} (hstep : w.step = .attempt last)
    (hdue : last = none ∨ ¬ w.deadline ≤ w.wake) : w.pauses task + 3 ≤ w.rank task := by
  rw [rank, hstep]
  cases last with
  | none => simp
  | some e =>
    have hearly := hdue.resolve_left (by simp)
    simp [hearly]

/-- A pause costs one. -/
theorem pauses_add_one_le {w w' : Worker} (hretry : 0 < task.retryInterval.nanos)
    (hdeadline : w'.deadline = w.deadline)
    (hwake : w.wake.nanos + task.retryInterval.nanos ≤ w'.wake.nanos)
    (hearly : ¬ w'.deadline ≤ w'.wake) :
    w'.pauses task + 1 ≤ w.pauses task := by
  have hearly : w'.wake.nanos < w'.deadline.nanos := Nat.lt_of_not_le hearly
  rw [pauses, ← Nat.add_div_right _ hretry, pauses, ← hdeadline]
  exact Nat.div_le_div_right (by omega)

/-- A worker that was refused for now has less before it. -/
theorem rank_after_pause {w w' : Worker} {e : ClientError} (hretry : 0 < task.retryInterval.nanos)
    (hstep : w'.step = .attempt (some e)) (hdeadline : w'.deadline = w.deadline)
    (hwake : w.wake.nanos + task.retryInterval.nanos ≤ w'.wake.nanos) :
    w'.rank task ≤ w.pauses task + 2 := by
  rw [rank, hstep]
  simp only
  split
  · omega
  · rename_i hearly
    have hless := pauses_add_one_le hretry hdeadline hwake hearly
    omega

/-- **An answer takes a worker on.** -/
theorem rank_afterAnswer_lt {w : Worker} {last : Option ClientError} {answeredAt : Duration}
    (hretry : 0 < task.retryInterval.nanos) (hstep : w.step = .attempt last)
    (hdue : last = none ∨ ¬ w.deadline ≤ w.wake) (hlater : w.wake ≤ answeredAt)
    (answer : Except ClientError Unit) :
    (w.afterAnswer task answeredAt answer).rank task < w.rank task := by
  have hrank : w.pauses task + 3 ≤ w.rank task := le_rank_of_attempt hstep hdue
  suffices hless : (w.afterAnswer task answeredAt answer).rank task ≤ w.pauses task + 2 by omega
  rcases answer with e | done
  · cases hrefusal : e.refusal with
    | temporary =>
      refine rank_after_pause (e := e) hretry (by simp [afterAnswer, hrefusal])
        (afterAnswer_deadline _) ?_
      simp only [afterAnswer, hrefusal]
      exact Nat.le_trans (Nat.add_le_add_right hlater _) (Duration.add_le_afterPause answeredAt _)
    | gone => simp [afterAnswer, hrefusal, rank]
    | final => simp [afterAnswer, hrefusal, rank]
  · simp [afterAnswer, rank]

/-- **Every step takes a worker on.** -/
theorem Moves.rank_lt {api : ApiServer σ} {w w' : Worker} {s s' : Session σ}
    (h : Moves api task w s (.sleeps w', s')) (hretry : 0 < task.retryInterval.nanos) :
    w'.rank task < w.rank task := by
  cases h with
  | attempts hstep hdue hlater => exact rank_afterAnswer_lt hretry hstep hdue hlater _
  | announces hstep => simp [rank, hstep]

end Worker

namespace Board

variable {api : ApiServer σ} {slots : Nat} {b b' : Board σ}

/-- How many steps the worker of one pod makes at most. -/
def stepsForOne (task : EvictionTask) : Nat := task.timeout.nanos / task.retryInterval.nanos + 4

/-- **How many steps a board makes at most.** -/
def rank (task : EvictionTask) (b : Board σ) : Nat :=
  (b.active.map (·.rank task)).sum + b.waiting.length * stepsForOne task

/-- A worker that starts has all its steps before it. -/
theorem rank_start_worker (now : Duration) (index : Nat) (pod : Pod) :
    (Worker.start task now index pod).rank task = stepsForOne task := by
  simp [Worker.start, Worker.rank, Worker.pauses, stepsForOne]

/-- Starting workers makes no step. -/
theorem rank_fill (b : Board σ) : (b.fill task slots).rank task = b.rank task := by
  -- a pod that waits counts as much as a worker that starts
  have hstarted (entries : List (Nat × Pod)) :
      ((entries.map fun e => Worker.start task b.session.clock e.1 e.2).map (·.rank task)).sum =
        entries.length * stepsForOne task := by
    induction entries with
    | nil => simp
    | cons entry entries ih =>
      simp only [List.map_cons, List.sum_cons, ih, rank_start_worker, List.length_cons,
        Nat.succ_mul]
      omega
  have hlength := congrArg List.length (List.take_append_drop (slots - b.active.length) b.waiting)
  rw [List.length_append] at hlength
  simp only [rank, fill, List.map_append, List.sum_append, hstarted]
  rw [Nat.add_assoc, ← Nat.add_mul, hlength]

/-- **Every step takes a board on.** -/
theorem rank_step? (hretry : 0 < task.retryInterval.nanos)
    (hstep : b.step? api task slots = some b') :
    b'.rank task < b.rank task := by
  obtain ⟨⟨w, others⟩, hnext, rfl⟩ := Option.map_eq_some_iff.1 hstep
  have hactive := next?_perm hnext
  -- only the worker that acts counts for less afterwards
  have hrank : b.rank task = w.rank task + { b with active := others }.rank task := by
    rw [rank, (hactive.map _).sum_nat, List.map_cons, List.sum_cons, Nat.add_assoc]
    rfl
  have hmoves := Worker.moves_act api task w (b.session.waitUntil w.wake)
  simp only
  generalize w.act api task (b.session.waitUntil w.wake) = out at hmoves ⊢
  obtain ⟨act, session⟩ := out
  cases act with
  | sleeps w' =>
    have hless := hmoves.rank_lt hretry
    change { b with session, active := others ++ [w'] }.rank task < _
    have hrank' : { b with session, active := others ++ [w'] }.rank task =
        w'.rank task + { b with active := others }.rank task := by
      simp only [rank, List.map_append, List.sum_append, List.map_singleton, List.sum_singleton]
      omega
    omega
  | left fault =>
    simp only [rank_fill]
    have hpos := w.rank_pos task
    change { b with active := others }.rank task < _
    omega

/-- **A board that is run long enough has no workers left**, unless the work has broken off. -/
theorem ended_run (hretry : 0 < task.retryInterval.nanos) {fuel : Nat}
    (hfuel : b.rank task ≤ fuel) :
    (run api task slots fuel b).active = [] ∨ (run api task slots fuel b).BrokenOff := by
  induction fuel generalizing b with
  | zero =>
    rw [run]
    cases hactive : b.active with
    | nil => exact Or.inl rfl
    | cons w others =>
      -- the worker would still make a step
      have hpos := w.rank_pos task
      rw [rank, hactive, List.map_cons, List.sum_cons] at hfuel
      omega
  | succ fuel ih =>
    rw [run]
    split
    · rename_i hnone
      exact step?_eq_none_iff.1 hnone
    · rename_i b' hstep
      have hless := rank_step? hretry hstep
      exact ih (by omega)

/-- **All workers of a drain leave**, if they pause between attempts and the work does not break
off. -/
theorem ended_run_mostSteps (hretry : 0 < task.retryInterval.nanos) (pods : List Pod)
    (session : Session σ) :
    (run api task slots (mostSteps task pods) (start task slots pods session)).active = [] ∨
      (run api task slots (mostSteps task pods) (start task slots pods session)).BrokenOff := by
  refine ended_run hretry ?_
  rw [start, rank_fill, mostSteps, Nat.max_eq_left hretry]
  simp [rank, stepsForOne]

end Board

end SpotRebalance
