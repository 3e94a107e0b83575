import SpotRebalance.Amount
import SpotRebalance.NameTable

/-! # Resources

The compute resources that pods request and nodes offer: processor time, memory, pod slots, and
amounts of other resources by name. Sums and maxima list a name that either side lists; a difference
lists the names of the first side only. A name that is not listed counts as zero. -/

namespace SpotRebalance

/-- An amount of every resource. -/
@[ext]
structure Resources where
  /-- Processor time in thousandths of a core. -/
  cpuMillis : Amount := 0
  /-- Memory in bytes. -/
  memoryBytes : Amount := 0
  /-- Pod slots. -/
  pods : Amount := 0
  /-- Other resources in whole units. -/
  scalars : NameTable Amount := ∅
  deriving DecidableEq, Inhabited

namespace Resources

/-- The amount of a named resource; zero if it is not listed. -/
def scalar (r : Resources) (name : String) : Amount := (r.scalars.get? name).getD 0

instance : Add Resources where
  add a b := {
    cpuMillis := a.cpuMillis + b.cpuMillis
    memoryBytes := a.memoryBytes + b.memoryBytes
    pods := a.pods + b.pods
    scalars := a.scalars.merge (· + ·) b.scalars }

instance : Sub Resources where
  sub a b := {
    cpuMillis := a.cpuMillis - b.cpuMillis
    memoryBytes := a.memoryBytes - b.memoryBytes
    pods := a.pods - b.pods
    scalars := a.scalars.map fun name amount => amount - b.scalar name }

instance : Max Resources where
  max a b := {
    cpuMillis := max a.cpuMillis b.cpuMillis
    memoryBytes := max a.memoryBytes b.memoryBytes
    pods := max a.pods b.pods
    scalars := a.scalars.merge max b.scalars }

@[simp] theorem cpuMillis_add (a b : Resources) :
    (a + b).cpuMillis = a.cpuMillis + b.cpuMillis := rfl

@[simp] theorem memoryBytes_add (a b : Resources) :
    (a + b).memoryBytes = a.memoryBytes + b.memoryBytes := rfl

@[simp] theorem pods_add (a b : Resources) : (a + b).pods = a.pods + b.pods := rfl

@[simp] theorem scalars_add (a b : Resources) :
    (a + b).scalars = a.scalars.merge (· + ·) b.scalars := rfl

/-- Whether processor time, memory and every named resource stay within a capacity. Pod slots are no
request of a pod and are counted apart. -/
def fitsWithin (needed capacity : Resources) : Bool :=
  decide (needed.cpuMillis ≤ capacity.cpuMillis) &&
    decide (needed.memoryBytes ≤ capacity.memoryBytes) &&
    needed.scalars.entries.all fun e => decide (e.2 ≤ capacity.scalar e.1)

theorem fitsWithin_iff {needed capacity : Resources} :
    needed.fitsWithin capacity ↔
      needed.cpuMillis ≤ capacity.cpuMillis ∧ needed.memoryBytes ≤ capacity.memoryBytes ∧
        ∀ name amount, needed.scalars.get? name = some amount → amount ≤ capacity.scalar name := by
  simp only [fitsWithin, Bool.and_eq_true, decide_eq_true_eq, List.all_eq_true, and_assoc]
  refine and_congr Iff.rfl (and_congr Iff.rfl ⟨fun h name amount hget => ?_, fun h e he => ?_⟩)
  · exact h (name, amount) (NameTable.mem_entries_iff.2 hget)
  · exact h e.1 e.2 (NameTable.mem_entries_iff.1 he)

/-- The resources with a number of mebibytes of memory; the count of bytes wraps around at 64
bits. -/
def withMebibytes (r : Resources) (mebibytes : Nat) : Resources :=
  { r with memoryBytes := .ofNat (mebibytes * 1024 * 1024 % 18446744073709551616) }

/-- The resources with an amount of a named resource. -/
def withScalar (r : Resources) (name : String) (amount : Amount) : Resources :=
  { r with scalars := r.scalars.insert name amount }

/-- All amounts on one line, named resources in name order. -/
def text (r : Resources) : String :=
  let fixed := "cpu=" ++ toString r.cpuMillis.val ++ "m memory=" ++ toString r.memoryBytes.val ++
    "B pods=" ++ toString r.pods.val
  r.scalars.entries.foldl (fun acc e => acc ++ " " ++ e.1 ++ "=" ++ toString e.2.val) fixed

end Resources

end SpotRebalance
