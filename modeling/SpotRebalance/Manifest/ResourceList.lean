import SpotRebalance.Quantity
import SpotRebalance.Resources

/-! # Resource lists

A **resource list** gives quantities in text by resource name. Processor time is counted in
thousandths and all else in whole units. Names other than `cpu`, `memory` and `pods` are named
resources. What cannot be read counts as zero in `readable`, and the first such quantity in name
order is the `fault?` of the list. -/

namespace SpotRebalance

/-- Quantities by resource name. -/
abbrev ResourceList := NameTable String

namespace ResourceList

/-- A quantity in the unit of its resource. -/
def amount (name text : String) : Except InvalidQuantity Amount :=
  (Quantity.ofText text).map fun q => if name = "cpu" then q.millis else q.units

/-- A quantity in the unit of its resource, if it can be read. -/
def amount? (name text : String) : Option Amount := (amount name text).toOption

/-- Whether a name has a place of its own among resources. -/
def isFixed (name : String) : Bool := name == "cpu" || name == "memory" || name == "pods"

/-- The amount of a name; zero if it is missing or cannot be read. -/
def amountOf (list : ResourceList) (name : String) : Amount :=
  ((list.get? name).bind (amount? name)).getD 0

/-- The resources in a list, as far as they can be read. -/
def readable (list : ResourceList) : Resources where
  cpuMillis := list.amountOf "cpu"
  memoryBytes := list.amountOf "memory"
  pods := list.amountOf "pods"
  scalars := list.filterMap fun name text => if isFixed name then none else amount? name text

/-- The first quantity in name order that cannot be read, with its name. -/
def fault? (list : ResourceList) : Option String :=
  list.entries.findSome? fun e =>
    match amount e.1 e.2 with
    | .error invalid => some (e.1 ++ ": " ++ invalid.message)
    | .ok _ => none

end ResourceList

end SpotRebalance
