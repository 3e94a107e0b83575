import Mathlib.Algebra.Order.BigOperators.Group.List
import SpotRebalance.Proofs.Eviction.Course
import SpotRebalance.Proofs.Eviction.Deletion

/-! # When deletion is checked

If the server answers without delay, passes over the pods begin one pause after the other, in some
rhythm (`passesFrom`). The wait ends with the first pass that finds no pod left, or with the first
one that comes no earlier than the deadline, which is the last of a known number (`Polls`). Its
rhythm is that of timers (`polls_await`). -/

namespace SpotRebalance.Deletion

universe u

variable {σ : Type u}

/-! ## One pass -/

/-- A pod has departed exactly if it does not count as left. -/
theorem departed_iff {node : String} {pod : Pod} {answer : Except ClientError PodManifest} :
    Departed node pod answer ↔ isLeft node pod answer = false := by
  refine ⟨fun h => ?_, departed_of_isLeft_eq_false⟩
  cases h with
  | absent hreason => simp [isLeft, hreason]
  | replaced hknown huid => simp [isLeft, isSamePod, hknown, huid]
  | elsewhere hnode => simp [isLeft, isSamePod, hnode]

instance (node : String) (pod : Pod) (answer : Except ClientError PodManifest) :
    Decidable (Departed node pod answer) :=
  decidable_of_iff _ departed_iff.symm

/-- What a pass found: the answer for each pod. -/
abbrev Findings := List (Except ClientError PodManifest)

/-- The look-ups of a pass that are answered at once. -/
def lookups (pods : List Pod) (reading : Duration) (found : Findings) : List ApiExchange :=
  List.zipWith (fun pod answer => ⟨reading, .getPod pod, reading, answer⟩) pods found

/-- **The pods that a pass found left**, by key and in list order: those that have not departed. -/
def leftOver (node : String) (pods : List Pod) (found : Findings) : List String :=
  ((pods.zip found).filter fun e => ¬ Departed node e.1 e.2).map (·.1.key)

/-- A pod that counts as left is named in front of those that follow. -/
theorem leftOver_cons (node : String) (pod : Pod) (pods : List Pod)
    (answer : Except ClientError PodManifest) (found : Findings) :
    leftOver node (pod :: pods) (answer :: found) =
      if isLeft node pod answer then pod.key :: leftOver node pods found
      else leftOver node pods found := by
  cases hleft : isLeft node pod answer <;> simp [leftOver, departed_iff, hleft]

/-- **A pass looks up every pod at once** and names those that are left. -/
theorem pass_eq {api : ApiServer σ} (hprompt : api.Prompt) (node : String) (pods : List Pod)
    (s : Session σ) :
    ∃ found : Findings, found.length = pods.length ∧
      (pass api node pods s).answer = leftOver node pods found ∧
      (pass api node pods s).state.clock = s.clock ∧
      (pass api node pods s).state.log = s.log ++ lookups pods s.clock found := by
  induction pods generalizing s with
  | nil => exact ⟨[], rfl, rfl, rfl, (List.append_nil _).symm⟩
  | cons pod pods ih =>
    rcases hsend : Session.send api (.getPod pod) s with ⟨answer, took, s₁⟩
    obtain ⟨hclock, hlog⟩ := hprompt.send_eq hsend
    obtain ⟨found, hlength, hanswer, hclock', hlog'⟩ := ih s₁
    rcases hrest : pass api node pods s₁ with ⟨left, wait, s₂⟩
    rw [hrest] at hanswer hclock' hlog'
    rw [pass, Exchange.bind_eq hsend, Exchange.map_eq hrest]
    refine ⟨answer :: found, congrArg (· + 1) hlength, ?_, hclock'.trans hclock, ?_⟩
    · simp only at hanswer
      subst hanswer
      exact (leftOver_cons node pod pods answer found).symm
    · simp only [Reply.state_delayed] at hlog' ⊢
      rw [hlog', hlog, hclock, List.append_assoc]
      rfl

/-! ## One pass after another -/

/-- **Passes that follow one another** in a rhythm, with what they found. -/
def passesFrom (pods : List Pod) (ρ : Rhythm) (pollInterval start : Duration)
    (findings : List Findings) : List ApiExchange :=
  (findings.mapIdx fun k found => lookups pods (ρ.after pollInterval start k) found).flatten

/-- Another pass comes one pause after the last one. -/
theorem passesFrom_append_singleton (pods : List Pod) (ρ : Rhythm) (pollInterval start : Duration)
    (findings : List Findings) (found : Findings) :
    passesFrom pods ρ pollInterval start (findings ++ [found]) =
      passesFrom pods ρ pollInterval start findings ++
        lookups pods (ρ.after pollInterval start findings.length) found := by
  simp [passesFrom, List.mapIdx_append]

/-- What passes send are look-ups, each one after a number of pauses. -/
theorem exists_of_mem_passesFrom {pods : List Pod} {ρ : Rhythm} {pollInterval start : Duration}
    {findings : List Findings} {x : ApiExchange}
    (hx : x ∈ passesFrom pods ρ pollInterval start findings) :
    ∃ k pod answer, x = ⟨ρ.after pollInterval start k, .getPod pod, ρ.after pollInterval start k,
      answer⟩ := by
  obtain ⟨looked, hlooked, hx⟩ := List.mem_flatten.1 hx
  obtain ⟨k, hk, rfl⟩ := List.mem_mapIdx.1 hlooked
  rw [lookups, ← List.map_uncurry_zip_eq_zipWith] at hx
  obtain ⟨e, -, rfl⟩ := List.mem_map.1 hx
  exact ⟨k, e.1, e.2, rfl⟩

/-- **How a wait for deletion goes** from a reading on, what it comes to and when. Each pass has an
answer for each pod. -/
inductive Polls (node : String) (pods : List Pod) (ρ : Rhythm)
    (pollInterval timeout start : Duration) :
    List ApiExchange → Except EvictionFault Unit → Duration → Prop where
  /-- The first pass that finds no pod left ends it well. -/
  | emptied {earlier : List Findings} {last : Findings}
      (hanswers : ∀ found ∈ earlier ++ [last], found.length = pods.length)
      (hleft : ∀ found ∈ earlier, leftOver node pods found ≠ [])
      (hnone : leftOver node pods last = [])
      (hcount : earlier.length ≤ ρ.filling pollInterval start timeout) :
      Polls node pods ρ pollInterval timeout start
        (passesFrom pods ρ pollInterval start (earlier ++ [last]))
        (.ok ()) (ρ.after pollInterval start earlier.length)
  /-- Otherwise the last pass comes when the time is up, and names the pods that it found left. -/
  | lingering {earlier : List Findings} {last : Findings}
      (hanswers : ∀ found ∈ earlier ++ [last], found.length = pods.length)
      (hleft : ∀ found ∈ earlier ++ [last], leftOver node pods found ≠ [])
      (hcount : earlier.length = ρ.filling pollInterval start timeout)
      (hlate : start + timeout ≤ ρ.after pollInterval start earlier.length) :
      Polls node pods ρ pollInterval timeout start
        (passesFrom pods ρ pollInterval start (earlier ++ [last]))
        (.error (.notDeleted (leftOver node pods last) timeout))
        (ρ.after pollInterval start earlier.length)

namespace Polls

variable {node : String} {pods : List Pod} {ρ : Rhythm}
  {pollInterval timeout start endedAt : Duration} {sent : List ApiExchange}
  {result : Except EvictionFault Unit}

/-- **The number of look-ups is bounded**: so many passes look up each pod once. -/
theorem countP_lookup_le (h : Polls node pods ρ pollInterval timeout start sent result endedAt)
    (hpoll : 0 < pollInterval.nanos) :
    sent.countP (·.lookup?.isSome) ≤
      pods.length * (timeout.nanos ⌈/⌉ pollInterval.nanos + 1) := by
  have hfilling := ρ.filling_le hpoll start timeout
  have hpasses {findings : List Findings}
      (hcount : findings.length ≤ ρ.filling pollInterval start timeout + 1) :
      (passesFrom pods ρ pollInterval start findings).length ≤
        pods.length * (timeout.nanos ⌈/⌉ pollInterval.nanos + 1) := by
    let passes := findings.mapIdx fun k found => lookups pods (ρ.after pollInterval start k) found
    have hone : ∀ n ∈ passes.map List.length, n ≤ pods.length := by
      intro n hn
      obtain ⟨looked, hlooked, rfl⟩ := List.mem_map.1 hn
      obtain ⟨k, hk, rfl⟩ := List.mem_mapIdx.1 hlooked
      rw [lookups, List.length_zipWith]
      exact Nat.min_le_left ..
    have hsum := List.sum_le_card_nsmul _ _ hone
    rw [List.length_map, List.length_mapIdx, smul_eq_mul, Nat.mul_comm] at hsum
    rw [passesFrom, List.length_flatten]
    exact hsum.trans (Nat.mul_le_mul_left _ (by omega))
  cases h with
  | emptied _ _ _ hcount => exact List.countP_le_length.trans (hpasses (by simpa using hcount))
  | lingering _ _ hcount => exact List.countP_le_length.trans (hpasses (by simp [hcount]))

/-- A wait sends look-ups, each one after a number of pauses. -/
theorem exists_of_mem (h : Polls node pods ρ pollInterval timeout start sent result endedAt)
    {x : ApiExchange} (hx : x ∈ sent) :
    ∃ k pod answer, x = ⟨ρ.after pollInterval start k, .getPod pod, ρ.after pollInterval start k,
      answer⟩ := by
  cases h <;> exact exists_of_mem_passesFrom hx

/-- A wait evicts nobody. -/
theorem countP_eviction (h : Polls node pods ρ pollInterval timeout start sent result endedAt) :
    sent.countP (·.eviction?.isSome) = 0 := by
  rw [List.countP_eq_zero]
  intro x hx
  obtain ⟨k, pod, answer, rfl⟩ := h.exists_of_mem hx
  exact Bool.false_ne_true

/-- **Every look-up comes after a number of pauses.** -/
theorem exists_sentAt (h : Polls node pods ρ pollInterval timeout start sent result endedAt) :
    ∀ x ∈ sent, ∃ k, x.sentAt = ρ.after pollInterval start k := by
  intro x hx
  obtain ⟨k, pod, answer, rfl⟩ := h.exists_of_mem hx
  exact ⟨k, rfl⟩

/-- **A wait on timers is even** if it starts at a whole millisecond, with pauses rounded up. -/
theorem even (h : Polls node pods .timers pollInterval timeout start sent result endedAt)
    (hpoll : 0 < pollInterval.nanos) (hstart : Duration.millisecond ∣ start.nanos) :
    Polls node pods .even pollInterval.wholeMillis timeout start sent result endedAt := by
  have hafter := Rhythm.timers_after hstart pollInterval
  have hfilling := Rhythm.timers_filling hstart hpoll timeout
  have hpasses (findings : List Findings) : passesFrom pods .timers pollInterval start findings =
      passesFrom pods .even pollInterval.wholeMillis start findings := by
    rw [passesFrom, passesFrom, hafter]
  cases h with
  | emptied hanswers hleft hnone hcount =>
    rw [hpasses, hafter]
    exact .emptied hanswers hleft hnone (hcount.trans_eq hfilling)
  | lingering hanswers hleft hcount hlate =>
    rw [hafter] at hlate
    rw [hpasses, hafter]
    exact .lingering hanswers hleft (hcount.trans hfilling) hlate

end Polls

/-- **Passes go on as the wait demands**, after those that found pods left. -/
theorem polls_awaitFrom {api : ApiServer σ} (hprompt : api.Prompt) {w : Watch}
    (hpoll : 0 < w.pollInterval.nanos) {start : Duration}
    (hdeadline : w.deadline = start + w.timeout) (fuel : ℕ) (earlier : List Findings)
    {s : Session σ} (hclock : s.clock = Rhythm.timers.after w.pollInterval start earlier.length)
    (hanswers : ∀ found ∈ earlier, found.length = w.pods.length)
    (hleft : ∀ found ∈ earlier, leftOver w.node w.pods found ≠ [])
    (hcount : earlier.length ≤ Rhythm.timers.filling w.pollInterval start w.timeout)
    (hfuel : Rhythm.timers.filling w.pollInterval start w.timeout < earlier.length + fuel) :
    ∃ sent result, (awaitFrom api w fuel s).state.log = s.log ++ sent ∧
      (awaitFrom api w fuel s).answer = .ok result ∧
      Polls w.node w.pods .timers w.pollInterval w.timeout start
        (passesFrom w.pods .timers w.pollInterval start earlier ++ sent) result
        (awaitFrom api w fuel s).state.clock := by
  -- the passes so far fix when the next one is made, so the fuel goes down while `earlier` grows
  induction fuel generalizing earlier s with
  | zero => omega
  | succ fuel ih =>
    obtain ⟨found, hlength, hnamed, hclock', hlog⟩ := pass_eq hprompt w.node w.pods s
    rcases hpass : pass api w.node w.pods s with ⟨left, took, s₁⟩
    rw [hpass] at hnamed hclock' hlog
    simp only at hnamed hclock' hlog
    rw [hclock] at hclock' hlog
    have hanswers' : ∀ found' ∈ earlier ++ [found], found'.length = w.pods.length :=
      List.forall_mem_append.2 ⟨hanswers, List.forall_mem_singleton.2 hlength⟩
    rw [awaitFrom, Exchange.bind_eq hpass]
    cases left with
    | nil =>
      refine ⟨_, .ok (), hlog, rfl, ?_⟩
      rw [← passesFrom_append_singleton]
      change Polls _ _ _ _ _ _ _ _ s₁.clock
      rw [hclock']
      exact .emptied hanswers' hleft hnamed.symm hcount
    | cons key keys =>
      have hleft' : ∀ found' ∈ earlier ++ [found], leftOver w.node w.pods found' ≠ [] :=
        List.forall_mem_append.2 ⟨hleft, List.forall_mem_singleton.2 (by simp [← hnamed])⟩
      -- the deadline has passed exactly if so many pauses were made as fill the time
      have hlate : w.deadline ≤ s₁.clock ↔
          Rhythm.timers.filling w.pollInterval start w.timeout ≤ earlier.length := by
        rw [hdeadline, hclock']
        exact Rhythm.timers.le_after_iff hpoll ..
      simp only
      split
      · rename_i hdue
        refine ⟨_, .error (.notDeleted (key :: keys) w.timeout), hlog, rfl, ?_⟩
        rw [← passesFrom_append_singleton]
        change Polls _ _ _ _ _ _ _ _ s₁.clock
        rw [hnamed, hclock']
        refine .lingering hanswers' hleft' (Nat.le_antisymm hcount (hlate.1 hdue)) ?_
        rw [← hdeadline, ← hclock']
        exact hdue
      · rename_i hdue
        rw [hlate, not_le] at hdue
        rcases hsleep : Session.sleep w.pollInterval s₁ with ⟨⟨⟩, paused, s₂⟩
        obtain ⟨hnext, hquiet⟩ := Session.sleep_eq hsleep
        rw [Exchange.bind_eq hsleep]
        rw [hclock'] at hnext
        have hnext' : s₂.clock =
            Rhythm.timers.after w.pollInterval start (earlier ++ [found]).length := by
          rw [List.length_append]
          exact hnext
        obtain ⟨sent, result, hsent, hanswer, hpolls⟩ :=
          ih _ hnext' hanswers' hleft' (by simp; omega) (by simp; omega)
        refine ⟨lookups w.pods (Rhythm.timers.after w.pollInterval start earlier.length)
          found ++ sent, result, ?_, hanswer, ?_⟩
        · rw [← List.append_assoc, ← hlog, ← hquiet]
          exact hsent
        · rw [← List.append_assoc, ← passesFrom_append_singleton]
          exact hpolls

/-- **A wait for deletion goes so**, if its deadline can be set. -/
theorem polls_await {api : ApiServer σ} (hprompt : api.Prompt) (node : String) (pods : List Pod)
    {pollInterval timeout : Duration} (hpoll : 0 < pollInterval.nanos) {s : Session σ}
    (hroom : s.clock + timeout ≤ Duration.clockEnd) :
    ∃ sent result, (await api node pods pollInterval timeout s).state.log = s.log ++ sent ∧
      (await api node pods pollInterval timeout s).answer = .ok result ∧
      Polls node pods .timers pollInterval timeout s.clock sent result
        (await api node pods pollInterval timeout s).state.clock := by
  have hdeadline : s.clock.later? timeout = some (s.clock + timeout) := if_pos hroom
  rw [await, hdeadline]
  -- timers round up, so the passes of equal pauses are more than enough
  have hfuel : Rhythm.timers.filling pollInterval s.clock timeout <
      timeout.nanos / max pollInterval.nanos 1 + 2 := by
    have hfilling := Rhythm.timers.filling_le hpoll s.clock timeout
    rw [Nat.ceilDiv_eq_add_pred_div] at hfilling
    rw [Nat.max_eq_left hpoll]
    have hle : timeout.nanos + pollInterval.nanos - 1 ≤ timeout.nanos + pollInterval.nanos :=
      Nat.sub_le ..
    have hdiv := Nat.div_le_div_right (c := pollInterval.nanos) hle
    rw [Nat.add_div_right _ hpoll] at hdiv
    omega
  let watch : Watch := { node, pods, pollInterval, timeout, deadline := s.clock + timeout }
  exact polls_awaitFrom (w := watch) hprompt hpoll rfl (mostPasses watch) [] rfl (by simp) (by simp)
    (Nat.zero_le _) (by simpa [mostPasses, watch] using hfuel)

end SpotRebalance.Deletion
