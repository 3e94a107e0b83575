import SpotRebalance.Duration

/-! # Exchanges

An **exchange** is something asked of a party with a state of its own: it gives an answer, takes
some time and leaves a new state. Exchanges follow one another by `Exchange.bind`, which adds up the
time they take. -/

namespace SpotRebalance

universe u

/-- What an exchange gave, how long it took, and the state it left. -/
structure Reply (σ : Type u) (α : Type) where
  /-- The answer. -/
  answer : α
  /-- The time until the answer. -/
  took : Duration
  /-- The state afterwards. -/
  state : σ

/-- Something asked of an environment in a given state. -/
abbrev Exchange (σ : Type u) (α : Type) := σ → Reply σ α

namespace Exchange

variable {σ : Type u} {α β : Type}

/-- An answer at once, without a change. -/
def done (answer : α) : Exchange σ α := fun s => ⟨answer, ⟨0⟩, s⟩

/-- The exchange with its answer changed. -/
def map (f : α → β) (x : Exchange σ α) : Exchange σ β := fun s =>
  let reply := x s
  ⟨f reply.answer, reply.took, reply.state⟩

/-- One exchange, and then another that depends on its answer. -/
def bind (x : Exchange σ α) (next : α → Exchange σ β) : Exchange σ β := fun s =>
  let first := x s
  let second := next first.answer first.state
  ⟨second.answer, first.took + second.took, second.state⟩

/-- One exchange, and then another unless the first failed. -/
def andThen {ε : Type} (x : Exchange σ (Except ε α)) (next : α → Exchange σ (Except ε β)) :
    Exchange σ (Except ε β) :=
  x.bind fun
    | .error e => done (.error e)
    | .ok a => next a

end Exchange

end SpotRebalance
