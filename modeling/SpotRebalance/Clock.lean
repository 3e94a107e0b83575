import SpotRebalance.Duration

/-! # Clock readings

The loop and the drain of a node measure time on a clock that starts at zero, so a **reading** is a
duration. The clock counts seconds in a signed 64-bit word: a deadline beyond its end cannot be set
(`later?`). Timers go off at whole milliseconds, at the first one that is not before their
deadline. -/

namespace SpotRebalance.Duration

/-- The last reading of a clock. -/
def clockEnd : Duration := ⟨9223372036854775808 * second - 1⟩

/-- The reading a span after another, if the clock gets there. -/
def later? (reading span : Duration) : Option Duration :=
  if reading + span ≤ clockEnd then some (reading + span) else none

/-- The first whole millisecond that is not before a reading. -/
def wholeMillis (reading : Duration) : Duration :=
  .ofMillis ((reading.nanos + millisecond - 1) / millisecond)

theorem nanos_wholeMillis (a : Duration) :
    a.wholeMillis.nanos = (a.nanos + millisecond - 1) / millisecond * millisecond := rfl

/-- When a pause that begins at a reading is over. -/
def afterPause (reading pause : Duration) : Duration := (reading + pause).wholeMillis

instance : LT Duration := ⟨fun a b => a.nanos < b.nanos⟩

theorem le_iff {a b : Duration} : a ≤ b ↔ a.nanos ≤ b.nanos := Iff.rfl

theorem lt_iff {a b : Duration} : a < b ↔ a.nanos < b.nanos := Iff.rfl

instance (a b : Duration) : Decidable (a < b) := inferInstanceAs (Decidable (a.nanos < b.nanos))

instance : Max Duration := ⟨fun a b => if a ≤ b then b else a⟩

@[simp] theorem nanos_max (a b : Duration) : (max a b).nanos = max a.nanos b.nanos := by
  change (if a.nanos ≤ b.nanos then b else a).nanos = _
  split <;> omega

/-- The whole milliseconds of a span. -/
def millis (d : Duration) : Nat := d.nanos / millisecond

end SpotRebalance.Duration
