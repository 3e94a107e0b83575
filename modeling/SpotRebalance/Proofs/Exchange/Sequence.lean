import SpotRebalance.Exchange

/-! # Exchanges one after the other

What a composed exchange does, from what its parts do: the second part starts in the state that the
first one left, and its reply is late by the time that the first one took (`Exchange.bind_eq`). -/

namespace SpotRebalance

universe u

variable {σ : Type u} {α β : Type}

/-- A reply that comes a while later. -/
def Reply.delayed (wait : Duration) (reply : Reply σ α) : Reply σ α :=
  { reply with took := wait + reply.took }

@[simp] theorem Reply.answer_delayed (wait : Duration) (reply : Reply σ α) :
    (reply.delayed wait).answer = reply.answer := rfl

@[simp] theorem Reply.state_delayed (wait : Duration) (reply : Reply σ α) :
    (reply.delayed wait).state = reply.state := rfl

/-- What follows an exchange starts in the state that it left, and is late by the time that it
took. -/
theorem Exchange.bind_eq {x : Exchange σ α} {next : α → Exchange σ β} {s s' : σ} {answer : α}
    {took : Duration} (h : x s = ⟨answer, took, s'⟩) :
    x.bind next s = (next answer s').delayed took := by
  rw [Exchange.bind, h]
  rfl

/-- A change of the answer changes nothing else. -/
theorem Exchange.map_eq {x : Exchange σ α} {f : α → β} {s s' : σ} {answer : α} {took : Duration}
    (h : x s = ⟨answer, took, s'⟩) : x.map f s = ⟨f answer, took, s'⟩ := by
  rw [Exchange.map, h]

/-- What follows an exchange that succeeded starts in the state that it left. -/
theorem Exchange.andThen_ok {ε : Type} {x : Exchange σ (Except ε α)}
    {next : α → Exchange σ (Except ε β)} {s s' : σ} {a : α} {took : Duration}
    (h : x s = ⟨.ok a, took, s'⟩) : x.andThen next s = (next a s').delayed took := by
  rw [andThen, bind_eq h]

/-- Nothing follows an exchange that failed. -/
theorem Exchange.andThen_error {ε : Type} {x : Exchange σ (Except ε α)}
    {next : α → Exchange σ (Except ε β)} {s s' : σ} {e : ε} {took : Duration}
    (h : x s = ⟨.error e, took, s'⟩) :
    x.andThen next s = ⟨.error e, took + ⟨0⟩, s'⟩ := by
  rw [andThen, bind_eq h]
  rfl

end SpotRebalance
