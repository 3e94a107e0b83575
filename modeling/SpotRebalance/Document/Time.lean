import SpotRebalance.Document
import SpotRebalance.Instant.Rfc3339

/-! # Documents of times

A duration is written as its whole seconds and the nanoseconds beyond them. When it is read, also
from a list of both parts, nanoseconds of a second or more carry over, and the whole must stay below
the bound of durations. An instant is a text. -/

namespace SpotRebalance

/-- Reads a duration of its two parts. -/
def Duration.ofParts? (whole part : Document) : Option Duration := do
  Duration.add? (.ofSeconds (← whole.natural? 64)) ⟨← part.natural? 32⟩

/-- Reads a duration. -/
def Duration.ofDocument? : Document.Reader Duration
  | .list [whole, part] => ofParts? whole part
  | d => d.closed? ["secs", "nanos"] fun fields => do
    ofParts? (← fields.required "secs" Document.any?) (← fields.required "nanos" Document.any?)

/-- Reads a number of milliseconds. -/
def Duration.ofMillis? : Document.Reader Duration := fun d => d.count?.map .ofMillis

/-- Reads a number of seconds. -/
def Duration.ofSeconds? : Document.Reader Duration := fun d => d.count?.map .ofSeconds

/-- Writes a duration. -/
def Duration.toDocument (d : Duration) : Document :=
  .record [("secs", .ofNat d.seconds), ("nanos", .ofNat d.subsecond)]

/-- Reads an instant. -/
def Instant.ofDocument? : Document.Reader Instant := Document.named? Instant.ofText?

/-- Writes an instant. -/
def Instant.toDocument (t : Instant) : Document := .text t.text

end SpotRebalance
