import SpotRebalance.Text.Decimal

/-! # Durations

A **duration** is a span of time in whole nanoseconds. Its text names the largest unit of `s`, `ms`,
`µs`, `ns` that gives a whole part of at least one, followed by the fraction without trailing zeros:
`1.5s`, `100ms`, `1.001µs`, and `0ns` for no time at all. -/

namespace SpotRebalance

/-- A span of time. -/
@[ext]
structure Duration where
  /-- Its length in nanoseconds. -/
  nanos : Nat
  deriving DecidableEq

namespace Duration

/-- Nanoseconds in a second. -/
def second : Nat := 1000000000

/-- Nanoseconds in a millisecond. -/
def millisecond : Nat := 1000000

/-- Nanoseconds in a microsecond. -/
def microsecond : Nat := 1000

/-- A number of seconds. -/
def ofSeconds (n : Nat) : Duration := ⟨n * second⟩

/-- A number of milliseconds. -/
def ofMillis (n : Nat) : Duration := ⟨n * millisecond⟩

/-- The whole seconds. -/
def seconds (d : Duration) : Nat := d.nanos / second

/-- The nanoseconds beyond the whole seconds. -/
def subsecond (d : Duration) : Nat := d.nanos % second

/-- The first span that a count of seconds in a 64-bit word cannot hold. -/
def bound : Nat := 18446744073709551616 * second

instance : Inhabited Duration := ⟨⟨0⟩⟩

instance : Add Duration := ⟨fun a b => ⟨a.nanos + b.nanos⟩⟩

instance : LE Duration := ⟨fun a b => a.nanos ≤ b.nanos⟩

instance (a b : Duration) : Decidable (a ≤ b) := inferInstanceAs (Decidable (a.nanos ≤ b.nanos))

instance : Min Duration := ⟨fun a b => if a ≤ b then a else b⟩

/-- Whether it takes no time. -/
def isZero (d : Duration) : Bool := d.nanos == 0

/-- The sum, if it stays below the bound. -/
def add? (a b : Duration) : Option Duration :=
  if a.nanos + b.nanos < bound then some (a + b) else none

@[simp] theorem nanos_add (a b : Duration) : (a + b).nanos = a.nanos + b.nanos := rfl

@[simp] theorem nanos_min (a b : Duration) : (min a b).nanos = min a.nanos b.nanos := by
  change (if a.nanos ≤ b.nanos then a else b).nanos = _
  split <;> omega

/-- The text of a duration in its largest fitting unit. -/
def text (d : Duration) : String :=
  let inUnit (unit width : Nat) (name : String) : String :=
    toString (d.nanos / unit) ++ Text.fraction width (d.nanos % unit) ++ name
  if second ≤ d.nanos then inUnit second 9 "s"
  else if millisecond ≤ d.nanos then inUnit millisecond 6 "ms"
  else if microsecond ≤ d.nanos then inUnit microsecond 3 "µs"
  else toString d.nanos ++ "ns"

end Duration

end SpotRebalance
