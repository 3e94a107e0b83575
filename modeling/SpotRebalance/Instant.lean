import SpotRebalance.Duration

/-! # Instants

An **instant** is a point in time: whole seconds since 1970-01-01T00:00:00Z, in which leap seconds
do not count, and the nanoseconds beyond them. During a **leap second** the seconds stand still and
the nanoseconds go on to two seconds. Any second may be followed by a leap second.

The calendar ends with year 262142, so a duration is added by `Instant.after`, which stops at the
latest instant; a duration of more milliseconds than a signed 64-bit word counts takes any instant
there. A step that does not leave a leap second goes on within it; one that leaves it starts at the
same fraction of the second before. -/

namespace SpotRebalance

/-- A point in time. -/
@[ext]
structure Instant where
  /-- Whole seconds since 1970-01-01T00:00:00Z. -/
  seconds : Int
  /-- The nanoseconds beyond them, a second or more in a leap second. -/
  nanos : Nat
  deriving DecidableEq

namespace Instant

instance : LT Instant :=
  ⟨fun a b => a.seconds < b.seconds ∨ a.seconds = b.seconds ∧ a.nanos < b.nanos⟩

instance : LE Instant :=
  ⟨fun a b => a.seconds < b.seconds ∨ a.seconds = b.seconds ∧ a.nanos ≤ b.nanos⟩

instance (a b : Instant) : Decidable (a ≤ b) :=
  inferInstanceAs (Decidable (a.seconds < b.seconds ∨ a.seconds = b.seconds ∧ a.nanos ≤ b.nanos))

instance (a b : Instant) : Decidable (a < b) :=
  inferInstanceAs (Decidable (a.seconds < b.seconds ∨ a.seconds = b.seconds ∧ a.nanos < b.nanos))

theorem le_iff {a b : Instant} :
    a ≤ b ↔ a.seconds < b.seconds ∨ a.seconds = b.seconds ∧ a.nanos ≤ b.nanos := Iff.rfl

theorem lt_iff {a b : Instant} :
    a < b ↔ a.seconds < b.seconds ∨ a.seconds = b.seconds ∧ a.nanos < b.nanos := Iff.rfl

/-- Whether it lies in a leap second. -/
def isLeap (t : Instant) : Bool := Duration.second ≤ t.nanos

/-- The nanoseconds since 1970-01-01T00:00:00Z, if leap seconds are not counted. -/
def sinceEpoch (t : Instant) : Int := t.seconds * Duration.second + t.nanos

/-- The instant a number of nanoseconds after 1970-01-01T00:00:00Z, in no leap second. -/
def ofEpoch (nanos : Int) : Instant := ⟨nanos / Duration.second, (nanos % Duration.second).toNat⟩

/-- The last nanosecond of the calendar: the end of year 262142. -/
def latest : Instant := ⟨8210266876799, 999999999⟩

/-- The longest duration that the calendar adds: the milliseconds of a signed 64-bit word. -/
def longestStep : Nat := 9223372036854775807 * Duration.millisecond

/-- Whether a duration ends within the leap second in which it starts. -/
def staysInLeap (t : Instant) (d : Duration) : Bool :=
  t.isLeap && t.nanos + d.nanos < 2 * Duration.second && d.nanos < Duration.second

/-- The instant a duration later, however late. -/
def shift (t : Instant) (d : Duration) : Instant :=
  if t.staysInLeap d then ⟨t.seconds, t.nanos + d.nanos⟩
  else
    let fraction := if t.isLeap then t.nanos - Duration.second else t.nanos
    let sum := fraction + d.nanos
    ⟨t.seconds + (sum / Duration.second : Nat), sum % Duration.second⟩

/-- The instant a duration later, if the duration is no longer than the longest step and the
calendar reaches that far. -/
def after? (t : Instant) (d : Duration) : Option Instant :=
  if d.nanos ≤ longestStep ∧ (t.shift d).seconds ≤ latest.seconds then some (t.shift d) else none

/-- The instant a duration later, or the latest one. -/
def after (t : Instant) (d : Duration) : Instant := (t.after? d).getD latest

end Instant

end SpotRebalance
