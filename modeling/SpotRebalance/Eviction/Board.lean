import SpotRebalance.Eviction.Pacing
import SpotRebalance.Eviction.Worker

/-! # The board of a drain

The **board** runs the workers of a drain on one clock. As many as the pacing allows are active; the
worker that wakes first acts first, and of several that wake together the one that has waited
longest. When a worker leaves, the next pod in list order gets a worker. All pods get one in the
end, whatever became of the others, unless the work breaks off at one of them. -/

namespace SpotRebalance

universe u

/-- The end of a worker. -/
structure Departure where
  /-- The position of the pod in the list. -/
  index : Nat
  /-- The pod. -/
  pod : Pod
  /-- When the worker left. -/
  leftAt : Duration
  /-- What went wrong, if something did. -/
  fault : Option EvictionFault

/-- The workers of a drain. -/
structure Board (σ : Type u) where
  /-- The session; its clock shows the present. -/
  session : Session σ
  /-- The pods that have no worker yet, by position. -/
  waiting : List (Nat × Pod)
  /-- The workers, the one that has waited longest in front. -/
  active : List Worker := []
  /-- The workers that have left, in order. -/
  departures : List Departure := []

namespace Board

variable {σ : Type u}

/-- The first of the workers that wake earliest, and the others. -/
def earliest? : List Worker → Option (Worker × List Worker)
  | [] => none
  | w :: rest =>
    match earliest? rest with
    | none => some (w, [])
    | some (v, others) => if v.wake < w.wake then some (v, w :: others) else some (w, rest)

/-- Gives workers to waiting pods while there are free slots. -/
def fill (task : EvictionTask) (slots : Nat) (b : Board σ) : Board σ :=
  let free := slots - b.active.length
  let starters := (b.waiting.take free).map fun e => Worker.start task b.session.clock e.1 e.2
  { b with waiting := b.waiting.drop free, active := b.active ++ starters }

/-- The worker that acts next, and the others, unless the work breaks off at it. -/
def next? (b : Board σ) : Option (Worker × List Worker) :=
  (earliest? b.active).filter fun next => !next.1.breaksOff

/-- Lets the next worker act, if there is one. -/
def step? (api : ApiServer σ) (task : EvictionTask) (slots : Nat) (b : Board σ) :
    Option (Board σ) :=
  b.next?.map fun (w, others) =>
    match w.act api task (b.session.waitUntil w.wake) with
    | (.sleeps w, session) => { b with session, active := others ++ [w] }
    | (.left fault, session) =>
      fill task slots
        { b with
          session
          active := others
          departures := b.departures ++ [⟨w.index, w.pod, w.wake, fault⟩] }

/-- Lets workers act until all have left or the work breaks off, at most a number of times. -/
def run (api : ApiServer σ) (task : EvictionTask) (slots : Nat) : Nat → Board σ → Board σ
  | 0, b => b
  | fuel + 1, b =>
    match b.step? api task slots with
    | none => b
    | some b => run api task slots fuel b

/-- The board of a list of pods. -/
def start (task : EvictionTask) (slots : Nat) (pods : List Pod) (session : Session σ) : Board σ :=
  fill task slots { session, waiting := pods.zipIdx.map fun e => (e.2, e.1) }

/-- A bound on the steps of all workers: each attempts the eviction until its time is up, announces
it and leaves. -/
def mostSteps (task : EvictionTask) (pods : List Pod) : Nat :=
  pods.length * (task.timeout.nanos / max task.retryInterval.nanos 1 + 4) + 1

/-- Whether one end comes before another: earlier, or at the same time and of an earlier pod. -/
def precedes (a b : Nat × Nat) : Bool := a.1 < b.1 || (a.1 == b.1 && a.2 < b.2)

/-- The first of some faults. -/
def firstOf : Departure × EvictionFault → List (Departure × EvictionFault) → EvictionFault
  | first, [] => first.2
  | first, other :: rest =>
    if precedes (other.1.leftAt.nanos, other.1.index) (first.1.leftAt.nanos, first.1.index) then
      firstOf other rest
    else firstOf first rest

/-- The first fault of all workers, if there is one. -/
def firstFault? (departures : List Departure) : Option EvictionFault :=
  match departures.filterMap fun d => d.fault.map fun fault => (d, fault) with
  | [] => none
  | first :: rest => some (firstOf first rest)

/-- What workers that have left came to. -/
def verdict (departures : List Departure) : Except EvictionFault Unit :=
  match firstFault? departures with
  | some fault => .error fault
  | none => .ok ()

/-- What the board came to once it has run. -/
def result (b : Board σ) : Except Interruption (Except EvictionFault Unit) :=
  match earliest? b.active with
  | some (next, _) => .error (if next.breaksOff then .clockExhausted else .stalled)
  | none => .ok (verdict b.departures)

end Board

end SpotRebalance
