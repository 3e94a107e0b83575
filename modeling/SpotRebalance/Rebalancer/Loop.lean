import SpotRebalance.Clock
import SpotRebalance.Rebalancer.Cycle

/-! # The loop of the rebalancer

The loop runs a cycle at every tick until it is told to stop. The first tick is due one period after
the start. A tick whose time has passed goes off at once, and the next is then due one period after
that; a tick counts as late only beyond a tolerance of five milliseconds, and otherwise the next is
due one period after it was due. A cycle in progress is finished before the loop stops. A loop whose
period is zero or takes its first tick beyond the end of the clock ends before it starts.

When a tick and the stop are ready at the same time, either may be taken first. A list of choices
settles these **ties** in turn, and once it is used up the stop is taken. -/

namespace SpotRebalance

universe u

/-- Why a loop ended. -/
inductive LoopEnd where
  /-- It was told to stop. -/
  | stopped
  /-- No time passes from one tick to the next. -/
  | noPeriod
  /-- The clock cannot reach the next tick. -/
  | clockExhausted
  deriving DecidableEq

/-- A source of ticks. -/
structure Ticker where
  /-- The time from one tick to the next. -/
  period : Duration
  /-- When the next tick is due. -/
  due : Duration
  deriving DecidableEq

namespace Ticker

/-- How late a tick may go off without moving the ones after it. -/
def tolerance : Duration := .ofMillis 5

/-- The ticker of a loop that starts now, or why it cannot tick. -/
def start (period : Duration) : Except LoopEnd Ticker :=
  if period.isZero then .error .noPeriod
  else
    match Duration.later? ⟨0⟩ period with
    | none => .error .clockExhausted
    | some due => .ok ⟨period, due⟩

/-- When the next tick goes off for a loop that has been idle since a reading. -/
def firesAt (t : Ticker) (idle : Duration) : Duration := max idle t.due.wholeMillis

/-- The ticker after a tick that went off at a reading. -/
def next? (t : Ticker) (fired : Duration) : Option Ticker :=
  let base := if t.due + tolerance < fired then fired else t.due
  (base.later? t.period).map fun due => { t with due }

end Ticker

/-- An environment in which time passes between cycles and the status can be seen. -/
structure LoopEnvironment (σ : Type u) extends Environment σ where
  /-- What happens until a reading while the loop is idle. -/
  wait : Duration → σ → σ
  /-- Shows a status to observers. -/
  publish : Status → σ → σ

/-- A cycle of the loop. -/
structure LoopTurn where
  /-- When it started. -/
  startedAt : Duration
  /-- How long it took. -/
  took : Duration
  /-- What it came to. -/
  result : Except RebalanceError Outcome
  /-- What it measured. -/
  measurements : List Measurement

/-- A loop that has ended. -/
structure LoopRun (σ : Type u) where
  /-- The cycles, in order. -/
  turns : List LoopTurn
  /-- When the loop ended. -/
  endedAt : Duration
  /-- Why it ended. -/
  reason : LoopEnd
  /-- The rebalancer afterwards. -/
  rebalancer : Rebalancer
  /-- The environment afterwards. -/
  state : σ

/-- What surrounds a loop. -/
structure Loop (σ : Type u) where
  /-- The environment. -/
  env : LoopEnvironment σ
  /-- The wall clock at a reading. -/
  wall : Duration → Instant
  /-- When the loop is told to stop. -/
  stop : Duration

namespace Loop

variable {σ : Type u}

/-- Whether a tick is taken before the stop, and the choices left for later ties. -/
def takesTick (fires halts : Duration) (ties : List Bool) : Bool × List Bool :=
  if fires < halts then (true, ties)
  else if halts < fires then (false, ties)
  else (ties.head?.getD false, ties.tail)

/-- What a loop does next. -/
inductive Next where
  /-- It ends at a reading. -/
  | ends (reading : Duration) (reason : LoopEnd)
  /-- It runs a cycle at a reading; the ticker and the choices are those left for later. -/
  | turns (reading : Duration) (ticker : Ticker) (ties : List Bool)

/-- What a loop does that has been idle since a reading. -/
def next (l : Loop σ) (ties : List Bool) (ticker : Ticker) (idle : Duration) : Next :=
  let fires := ticker.firesAt idle
  let halts := max idle l.stop
  let (ticks, ties) := takesTick fires halts ties
  if ticks then
    match ticker.next? fires with
    | none => .ends fires .clockExhausted
    | some ticker => .turns fires ticker ties
  else .ends halts .stopped

/-- At most `fuel` cycles, and the end, of a loop that has been idle since a reading. -/
def runFrom (l : Loop σ) :
    (fuel : Nat) → List Bool → Ticker → Rebalancer → (idle : Duration) → σ → LoopRun σ
  | 0, _, _, r, idle, s => ⟨[], idle, .stopped, r, s⟩
  | fuel + 1, ties, ticker, r, idle, s =>
    match l.next ties ticker idle with
    | .ends reading reason => ⟨[], reading, reason, r, l.env.wait reading s⟩
    | .turns fires ticker ties =>
      let reply := r.runAt l.env.toEnvironment (l.wall fires) (l.env.wait fires s)
      let report := reply.answer
      let rest := l.runFrom fuel ties ticker report.rebalancer (fires + reply.took)
        (l.env.publish report.rebalancer.status reply.state)
      { rest with turns := ⟨fires, reply.took, report.result, report.measurements⟩ :: rest.turns }

/-- A bound on the number of cycles: ticks are at least a period apart, and a tick at or after the
stop uses up a choice. -/
def mostTurns (l : Loop σ) (period : Duration) (ties : List Bool) : Nat :=
  l.stop.nanos / period.nanos + ties.length + 2

/-- Runs cycles until the loop is told to stop. -/
def run (l : Loop σ) (ties : List Bool) (r : Rebalancer) (s : σ) : LoopRun σ :=
  let period := r.config.housekeepingInterval
  match Ticker.start period with
  | .error reason => ⟨[], ⟨0⟩, reason, r, s⟩
  | .ok ticker => l.runFrom (l.mostTurns period ties) ties ticker r ⟨0⟩ s

end Loop

end SpotRebalance
