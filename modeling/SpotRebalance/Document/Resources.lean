import SpotRebalance.Document
import SpotRebalance.Resources

/-! # Documents of resources

Amounts are whole numbers. The field for named resources is left out when there are none. -/

namespace SpotRebalance

/-- Reads an amount. -/
def Amount.ofDocument? : Document.Reader Amount := fun d => d.count?.map .ofNat

/-- Writes an amount. -/
def Amount.toDocument (a : Amount) : Document := .ofNat a.val

/-- Reads resources. -/
def Resources.ofDocument? : Document.Reader Resources :=
  Document.closed? ["cpu_millis", "memory_bytes", "pods", "scalar"] fun fields => do
    return {
      cpuMillis := ← fields.orElse "cpu_millis" Amount.ofDocument? 0
      memoryBytes := ← fields.orElse "memory_bytes" Amount.ofDocument? 0
      pods := ← fields.orElse "pods" Amount.ofDocument? 0
      scalars := ← fields.orElse "scalar" (Document.table? Amount.ofDocument?) ∅ }

/-- Writes resources. -/
def Resources.toDocument (r : Resources) : Document :=
  .record
    ([("cpu_millis", r.cpuMillis.toDocument), ("memory_bytes", r.memoryBytes.toDocument),
        ("pods", r.pods.toDocument)] ++
      if r.scalars.isEmpty then [] else [("scalar", .ofTable Amount.toDocument r.scalars)])

end SpotRebalance
