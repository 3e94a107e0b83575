import SpotRebalance.Proofs.Exchange.Sequence

/-! # Exchanges side by side

The same is asked of two parties, each with a state of its own. **The exchanges go alike** if,
whenever the states of the parties match, the answers and the states that are left satisfy a given
relation (`Exchange.Alike`). How long an exchange takes does not matter for this.

There is one rule for each way to compose exchanges. In most of them the parties go on matching
(`InStep`): the answers are related, and so are the states. -/

namespace SpotRebalance

universe u v

variable {σ : Type u} {τ : Type v} {α β α' β' ε : Type}

/-- **Two answers agree**: both are the same error, or both are values that are related. -/
inductive Agree (A : α → α' → Prop) : Except ε α → Except ε α' → Prop where
  /-- Both failed for the same reason. -/
  | error (e : ε) : Agree A (.error e) (.error e)
  /-- Both succeeded with values that are related. -/
  | ok {a : α} {a' : α'} (h : A a a') : Agree A (.ok a) (.ok a')

/-- The same answer agrees with itself. -/
theorem Agree.refl (answer : Except ε α) : Agree Eq answer answer := by
  cases answer with
  | error e => exact .error e
  | ok a => exact .ok rfl

/-- Answers that agree on equal values are the same. -/
theorem Agree.eq {answer answer' : Except ε α} (h : Agree Eq answer answer') :
    answer = answer' := by
  cases h with
  | error e => rfl
  | ok heq => rw [heq]

/-- **Two parties are in step**: their answers are related, and their states still match. -/
def InStep (A : α → α' → Prop) (R : σ → τ → Prop) (a : α) (a' : α') (s : σ) (t : τ) : Prop :=
  A a a' ∧ R s t

namespace Exchange

/-- **Two exchanges go alike** from states that match: a relation holds between what they answer and
leave. -/
def Alike (x : Exchange σ α) (y : Exchange τ α') (R : σ → τ → Prop) (Q : α → α' → σ → τ → Prop) :
    Prop :=
  ∀ s t, R s t → Q (x s).answer (y t).answer (x s).state (y t).state

variable {x : Exchange σ α} {y : Exchange τ α'} {R : σ → τ → Prop} {Q : α → α' → σ → τ → Prop}
  {P : β → β' → σ → τ → Prop}

/-- Answers that are given at once leave both states as they were. -/
theorem alike_done {a : α} {a' : α'} (h : ∀ s t, R s t → Q a a' s t) :
    (done a : Exchange σ α).Alike (done a' : Exchange τ α') R Q := h

theorem Alike.map {f : α → β} {g : α' → β'} (h : x.Alike y R Q)
    (hfg : ∀ a a' s t, Q a a' s t → P (f a) (g a') s t) : (x.map f).Alike (y.map g) R P :=
  fun s t hst => hfg _ _ _ _ (h s t hst)

/-- **What follows two exchanges goes alike** if it does so from whatever they answered and left. -/
theorem Alike.bind {f : α → Exchange σ β} {g : α' → Exchange τ β'} (h : x.Alike y R Q)
    (hnext : ∀ a a', (f a).Alike (g a') (Q a a') P) : (x.bind f).Alike (y.bind g) R P :=
  fun s t hst => hnext _ _ _ _ (h s t hst)

/-- What follows two exchanges that stay in step may rely on their answers. -/
theorem Alike.bind_inStep {A : α → α' → Prop} {f : α → Exchange σ β} {g : α' → Exchange τ β'}
    (h : x.Alike y R (InStep A R)) (hnext : ∀ a a', A a a' → (f a).Alike (g a') R P) :
    (x.bind f).Alike (y.bind g) R P :=
  h.bind fun a a' s t hst => hnext a a' hst.1 s t hst.2

/-- Two exchanges after which nothing is asked if they failed. -/
theorem Alike.andThen {A : α → α' → Prop} {B : β → β' → Prop} {x : Exchange σ (Except ε α)}
    {y : Exchange τ (Except ε α')} {f : α → Exchange σ (Except ε β)}
    {g : α' → Exchange τ (Except ε β')} (h : x.Alike y R (InStep (Agree A) R))
    (hnext : ∀ a a', A a a' → (f a).Alike (g a') R (InStep (Agree B) R)) :
    (x.andThen f).Alike (y.andThen g) R (InStep (Agree B) R) := by
  refine h.bind_inStep fun answer answer' hagree => ?_
  cases hagree with
  | error e => exact alike_done fun s t hst => ⟨.error e, hst⟩
  | ok ha => exact hnext _ _ ha

/-- An exchange goes alike with itself. -/
theorem alike_refl (x : Exchange σ α) : x.Alike x Eq (InStep Eq Eq) := by
  rintro s _ rfl
  exact ⟨rfl, rfl⟩

/-- An exchange that may fail agrees with itself. -/
theorem alike_agree (x : Exchange σ (Except ε α)) : x.Alike x Eq (InStep (Agree Eq) Eq) := by
  rintro s _ rfl
  exact ⟨.refl _, rfl⟩

end Exchange

end SpotRebalance
