import SpotRebalance.Exchange

/-! # Exchanges in unison

The same is asked of two parties, as in exchanges that go alike, but here time matters as well.
**Two exchanges are in unison** if, whenever the states of the parties match, the answers are the
same, they take the same time, and the states that are left match again (`Exchange.Unison`). What is
composed of exchanges in unison is in unison. -/

namespace SpotRebalance

universe u v

variable {σ : Type u} {τ : Type v} {α β ε : Type}

/-- **Two replies match**: they give the same answer after the same time, and leave states that
match. -/
structure Reply.Matches (R : σ → τ → Prop) (reply : Reply σ α) (other : Reply τ α) : Prop where
  /-- The answers are the same. -/
  answer : reply.answer = other.answer
  /-- They take the same time. -/
  took : reply.took = other.took
  /-- The states match. -/
  state : R reply.state other.state

namespace Exchange

/-- **Two exchanges are in unison**: from states that match they come to replies that match. -/
def Unison (x : Exchange σ α) (y : Exchange τ α) (R : σ → τ → Prop) : Prop :=
  ∀ s t, R s t → (x s).Matches R (y t)

variable {x : Exchange σ α} {y : Exchange τ α} {R : σ → τ → Prop}

theorem unison_done (answer : α) : (done answer : Exchange σ α).Unison
    (done answer : Exchange τ α) R :=
  fun _ _ h => ⟨rfl, rfl, h⟩

theorem Unison.map (h : x.Unison y R) (f : α → β) : (x.map f).Unison (y.map f) R := by
  intro s t hst
  have hreply := h s t hst
  exact ⟨congrArg f hreply.answer, hreply.took, hreply.state⟩

/-- **What follows two exchanges in unison** is in unison if it is so for every answer. -/
theorem Unison.bind {f : α → Exchange σ β} {g : α → Exchange τ β} (h : x.Unison y R)
    (hnext : ∀ answer, (f answer).Unison (g answer) R) : (x.bind f).Unison (y.bind g) R := by
  intro s t hst
  have hfirst := h s t hst
  have hsecond := hnext (x s).answer _ _ hfirst.state
  rw [hfirst.answer] at hsecond
  refine ⟨?_, ?_, ?_⟩
  · simpa only [Exchange.bind, hfirst.answer] using hsecond.answer
  · simp only [Exchange.bind, hfirst.answer, hfirst.took, hsecond.took]
  · simpa only [Exchange.bind, hfirst.answer] using hsecond.state

/-- Two exchanges after which nothing is asked if they failed. -/
theorem Unison.andThen {x : Exchange σ (Except ε α)} {y : Exchange τ (Except ε α)}
    {f : α → Exchange σ (Except ε β)} {g : α → Exchange τ (Except ε β)} (h : x.Unison y R)
    (hnext : ∀ a, (f a).Unison (g a) R) :
    (x.andThen f).Unison (y.andThen g) R := by
  refine h.bind fun answer => ?_
  cases answer with
  | error e => exact unison_done _
  | ok a => exact hnext a

end Exchange

end SpotRebalance
