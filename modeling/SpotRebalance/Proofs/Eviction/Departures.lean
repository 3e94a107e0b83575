import SpotRebalance.Proofs.Eviction.Roster

/-! # What a board comes to

When all workers have left a board, each pod had a worker, so each was attempted
(`Sound.attempted`). If the board comes to no fault, each eviction was accepted exactly once
(`Sound.of_result_ok`). If the eviction of a pod failed, the board comes to a fault of one of the
pods (`Sound.result_eq_error`). -/

namespace SpotRebalance

universe u

variable {σ : Type u}

namespace Board

/-! ## The first fault -/

/-- What comes before another end is no later, and what does not is no earlier. -/
theorem precedes_le (a b : Nat × Nat) :
    (precedes a b = true → a.1 ≤ b.1) ∧ (¬ precedes a b = true → b.1 ≤ a.1) := by
  simp only [precedes, Bool.or_eq_true, Bool.and_eq_true, decide_eq_true_eq, beq_iff_eq]
  omega

/-- Which fault counts: none is earlier. -/
theorem firstOf_earliest (first : Departure × EvictionFault)
    (rest : List (Departure × EvictionFault)) :
    ∃ e ∈ first :: rest, e.2 = firstOf first rest ∧
      ∀ other ∈ first :: rest, e.1.leftAt ≤ other.1.leftAt := by
  induction rest generalizing first with
  | nil => exact ⟨first, by simp, rfl, List.forall_mem_singleton.2 (Nat.le_refl _)⟩
  | cons other rest ih =>
    rw [firstOf]
    split
    · rename_i hprecedes
      obtain ⟨e, he, hfault, hearliest⟩ := ih other
      have hle : other.1.leftAt ≤ first.1.leftAt := (precedes_le _ _).1 hprecedes
      refine ⟨e, List.mem_cons_of_mem _ he, hfault, List.forall_mem_cons.2 ⟨?_, hearliest⟩⟩
      exact Nat.le_trans (hearliest other List.mem_cons_self) hle
    · rename_i hprecedes
      obtain ⟨e, he, hfault, hearliest⟩ := ih first
      rw [List.forall_mem_cons] at hearliest
      have hle : first.1.leftAt ≤ other.1.leftAt := (precedes_le _ _).2 hprecedes
      refine ⟨e, ?_, hfault, ?_⟩
      · rcases List.mem_cons.1 he with rfl | he
        · simp
        · simp [he]
      · exact List.forall_mem_cons.2 ⟨hearliest.1,
          List.forall_mem_cons.2 ⟨Nat.le_trans hearliest.1 hle, hearliest.2⟩⟩

/-- Workers come to no fault exactly if each leaves without one. -/
theorem firstFault?_eq_none_iff {departures : List Departure} :
    firstFault? departures = none ↔ ∀ d ∈ departures, d.fault = none := by
  rw [firstFault?]
  split
  · rename_i hnone
    simpa [List.filterMap_eq_nil_iff] using hnone
  · rename_i first rest hsome
    have hfirst : first ∈ departures.filterMap fun d => d.fault.map fun fault => (d, fault) := by
      simp [hsome]
    obtain ⟨d, hd, heq⟩ := List.mem_filterMap.1 hfirst
    obtain ⟨fault, hfault, -⟩ := Option.map_eq_some_iff.1 heq
    simp only [reduceCtorEq, false_iff, not_forall]
    exact ⟨d, hd, by simp [hfault]⟩

/-- **The fault that workers come to** is that of one of them, and no worker with a fault left
earlier. -/
theorem firstFault?_earliest {departures : List Departure} {fault : EvictionFault}
    (h : firstFault? departures = some fault) :
    ∃ d ∈ departures, d.fault = some fault ∧ ∀ other ∈ departures, other.fault ≠ none →
      d.leftAt ≤ other.leftAt := by
  rw [firstFault?] at h
  split at h
  · cases h
  · rename_i first rest hsome
    cases h
    obtain ⟨e, he, hfault, hearliest⟩ := firstOf_earliest first rest
    rw [← hsome] at he hearliest
    obtain ⟨d, hd, hmap⟩ := List.mem_filterMap.1 he
    obtain ⟨fault', hfault', rfl⟩ := Option.map_eq_some_iff.1 hmap
    refine ⟨d, hd, hfault'.trans (congrArg some hfault), fun other hother hne => ?_⟩
    obtain ⟨fault₂, hfault₂⟩ := Option.ne_none_iff_exists'.1 hne
    exact hearliest (other, fault₂)
      (List.mem_filterMap.2 ⟨other, hother, by rw [hfault₂, Option.map_some]⟩)

/-- Workers come to success exactly if each leaves without a fault. -/
theorem verdict_eq_ok_iff {departures : List Departure} :
    verdict departures = .ok () ↔ ∀ d ∈ departures, d.fault = none := by
  rw [← firstFault?_eq_none_iff, verdict]
  cases firstFault? departures <;> simp

/-- **Otherwise they come to the fault of one of them**, and no worker with a fault left earlier. -/
theorem exists_of_verdict_eq_error {departures : List Departure} {fault : EvictionFault}
    (h : verdict departures = .error fault) :
    ∃ d ∈ departures, d.fault = some fault ∧
      ∀ other ∈ departures, other.fault ≠ none → d.leftAt ≤ other.leftAt := by
  rw [verdict] at h
  split at h
  · rename_i first hfirst
    cases h
    exact firstFault?_earliest hfirst
  · cases h

/-! ## What a board comes to -/

/-- **A board comes to an end** exactly if all workers have left, and then to what they came to. -/
theorem result_eq_ok_iff {b : Board σ} {result : Except EvictionFault Unit} :
    b.result = .ok result ↔ b.active = [] ∧ result = verdict b.departures := by
  rw [Board.result, ← earliest?_eq_none_iff]
  cases earliest? b.active with
  | none => exact ⟨fun h => ⟨rfl, (Except.ok.inj h).symm⟩, fun h => congrArg Except.ok h.2.symm⟩
  | some next => exact iff_of_false nofun nofun

/-- **Its work breaks off** exactly if the worker that wakes first cannot set its deadline. -/
theorem result_eq_clockExhausted_iff {b : Board σ} :
    b.result = .error .clockExhausted ↔ b.BrokenOff := by
  rw [Board.result, BrokenOff]
  cases earliest? b.active with
  | none => simp
  | some next => cases hnext : next.1.breaksOff <;> simp [hnext, Prod.ext_iff]

/-! ## What was sent -/

section Sent

variable {task : EvictionTask} {slots : Nat} {pods : List Pod} {b : Board σ}
  {earlier sent : List ApiExchange}

/-- Only pods of the list are evicted, each by its own request. -/
theorem Sound.request_eq (h : Sound task slots pods earlier sent b) {x : ApiExchange}
    (hx : x ∈ sent) {pod : Pod} {answer : Except ClientError Unit}
    (heviction : x.eviction? = some (pod, answer)) :
    pod ∈ pods ∧ x.request = task.request pod := by
  rcases h.requests x hx with ⟨other, hother, hrequest⟩ | ⟨event, hevent⟩
  · obtain ⟨answer', heq⟩ := x.eviction?_of_request hrequest
    rw [heviction] at heq
    cases heq
    exact ⟨hother, hrequest⟩
  · rw [x.eviction?_of_createEvent hevent] at heviction
    cases heviction

/-- A pod whose eviction failed was never accepted. -/
theorem Sound.not_accepted (h : Sound task slots pods earlier sent b) {pod : Pod}
    (hpod : pod ∈ pods) (hfailed : EvictionFailed sent pod) :
    (evictionAnswers sent pod).countP acceptsEviction = 0 := by
  rcases hfailed with ⟨e, he, hfinal⟩ | ⟨-, htried⟩
  · obtain ⟨entry, hentry, rfl⟩ := List.mem_map.1 (h.ledger.pods.mem_iff.2 hpod)
    exact (h.ledger.progress entry hentry).not_accepted_of_rejected he hfinal
  · exact htried.countP_accepted

/-- No pod is looked up. -/
theorem Sound.lookup?_eq_none (h : Sound task slots pods earlier sent b) :
    ∀ x ∈ sent, x.lookup? = none := by
  intro x hx
  rcases h.requests x hx with ⟨other, -, hrequest⟩ | ⟨event, hevent⟩
  · exact x.lookup?_of_request hrequest
  · exact x.lookup?_of_createEvent hevent

/-- A pod that has an answer was asked for. -/
theorem Sound.exists_request (h : Sound task slots pods earlier sent b)
    (hdistinct : (pods.map Pod.address).Nodup) {pod : Pod} (hpod : pod ∈ pods)
    (hanswered : evictionAnswers sent pod ≠ []) :
    ∃ x ∈ sent, x.request = task.request pod := by
  obtain ⟨x, hx, other, answer, heviction, haddress⟩ := exists_eviction_of_ne_nil hanswered
  obtain ⟨hother, hrequest⟩ := h.request_eq hx heviction
  -- answers are told apart by address, and no two pods of the list share one
  obtain rfl := List.inj_on_of_nodup_map hdistinct hother hpod haddress
  exact ⟨x, hx, hrequest⟩

end Sent

/-! ## Boards without workers -/

section Ended

variable {task : EvictionTask} {slots : Nat} {pods : List Pod} {b : Board σ}
  {earlier sent : List ApiExchange} (h : Sound task slots pods earlier sent b) (hslots : 0 < slots)

include h hslots

/-- When all workers have left, the roster lists their ends. -/
theorem Sound.roster_eq (hended : b.active = []) :
    b.roster = b.departures.map fun d => (d.pod, .leave d.fault) := by
  rw [roster, hended, waiting_eq_nil h.staffed hslots hended, List.map_nil, List.map_nil,
    List.append_nil, List.append_nil]

/-- When all workers have left, each pod had one. -/
theorem Sound.departed (hended : b.active = []) {pod : Pod} (hpod : pod ∈ pods) :
    ∃ d ∈ b.departures, Progress task pod (evictionAnswers sent pod) (.leave d.fault) := by
  obtain ⟨entry, hentry, rfl⟩ := List.mem_map.1 (h.ledger.pods.mem_iff.2 hpod)
  have hprogress := h.ledger.progress entry hentry
  rw [h.roster_eq hslots hended] at hentry
  obtain ⟨d, hd, rfl⟩ := List.mem_map.1 hentry
  exact ⟨d, hd, hprogress⟩

/-- A worker that has left had a pod of the list. -/
theorem Sound.departure (hended : b.active = []) {d : Departure} (hd : d ∈ b.departures) :
    d.pod ∈ pods ∧ Progress task d.pod (evictionAnswers sent d.pod) (.leave d.fault) := by
  have hentry : (d.pod, WorkerStep.leave d.fault) ∈ b.roster := by
    rw [h.roster_eq hslots hended]
    exact List.mem_map_of_mem hd
  exact ⟨h.ledger.pods.mem_iff.1 (List.mem_map_of_mem hentry), h.ledger.progress _ hentry⟩

/-- **Every pod is attempted**, whatever became of the others. -/
theorem Sound.attempted (hended : b.active = []) {pod : Pod} (hpod : pod ∈ pods) :
    evictionAnswers sent pod ≠ [] := by
  obtain ⟨d, -, hprogress⟩ := h.departed hslots hended hpod
  exact hprogress.ne_nil

/-- **If a board comes to no fault, each pod was accepted exactly once**, and all answers have
come. -/
theorem Sound.of_result_ok (hresult : b.result = .ok (.ok ())) :
    (∀ pod ∈ pods, (evictionAnswers sent pod).countP acceptsEviction = 1) ∧
      ∀ x ∈ sent, x.answeredAt.nanos ≤ b.session.clock.nanos := by
  obtain ⟨hended, hverdict⟩ := result_eq_ok_iff.1 hresult
  constructor
  · intro pod hpod
    obtain ⟨d, hd, hprogress⟩ := h.departed hslots hended hpod
    rw [verdict_eq_ok_iff.1 hverdict.symm d hd] at hprogress
    exact hprogress.countP_accepted
  · intro x hx
    exact (h.answered x hx).resolve_right (by simp [hended])

/-- **If the eviction of a pod failed, the board comes to a fault** of one of the pods. -/
theorem Sound.result_eq_error (hended : b.active = []) {pod : Pod} (hpod : pod ∈ pods)
    (hfailed : EvictionFailed sent pod) :
    ∃ fault, b.result = .ok (.error fault) ∧
      ∃ other ∈ pods, fault.Concerns task other (evictionAnswers sent other) := by
  obtain ⟨d, hd, hprogress⟩ := h.departed hslots hended hpod
  cases hverdict : verdict b.departures with
  | ok done =>
    -- the worker of the pod would have left in peace
    rw [verdict_eq_ok_iff.1 hverdict d hd] at hprogress
    have haccepted := hprogress.countP_accepted
    rw [h.not_accepted hpod hfailed] at haccepted
    cases haccepted
  | error fault =>
    obtain ⟨d', hd', hfault, -⟩ := exists_of_verdict_eq_error hverdict
    obtain ⟨hlisted, hprogress'⟩ := h.departure hslots hended hd'
    rw [hfault] at hprogress'
    exact ⟨fault, result_eq_ok_iff.2 ⟨hended, hverdict.symm⟩, d'.pod, hlisted, hprogress'.concerns⟩

end Ended

end Board

end SpotRebalance
