import SpotRebalance.NameTable
import SpotRebalance.Text.Decimal

/-! # Labels and requirements on them

**Labels** are a name table of texts. A **requirement** constrains the label under one key by an
operator and a list of values; `Requirement.accepts` decides whether labels satisfy it. The numeric
operators compare signed 64-bit integers, and hold of nothing unless exactly one value is listed and
both sides are numbers. -/

namespace SpotRebalance

/-- The labels of an object. -/
abbrev Labels := NameTable String

/-- How a requirement constrains a label. -/
inductive SelectorOperator where
  /-- The label is present with one of the values. -/
  | oneOf
  /-- The label is absent or has none of the values. -/
  | noneOf
  /-- The label is present. -/
  | present
  /-- The label is absent. -/
  | absent
  /-- The label is a number above the single value. -/
  | above
  /-- The label is a number below the single value. -/
  | below
  deriving DecidableEq

namespace SelectorOperator

/-- The name of an operator in the cluster's API. -/
def name : SelectorOperator → String
  | oneOf => "In"
  | noneOf => "NotIn"
  | present => "Exists"
  | absent => "DoesNotExist"
  | above => "Gt"
  | below => "Lt"

/-- All operators. -/
def all : List SelectorOperator := [oneOf, noneOf, present, absent, above, below]

/-- The operator of a name. -/
def ofName? (s : String) : Option SelectorOperator := all.find? (·.name == s)

@[simp] theorem ofName?_name (op : SelectorOperator) : ofName? op.name = some op := by
  cases op <;> decide

end SelectorOperator

/-- A constraint on the label under one key. -/
structure Requirement where
  /-- The key of the label. -/
  key : String
  /-- How the label is constrained. -/
  operator : SelectorOperator
  /-- The values the operator refers to. -/
  values : List String := []
  deriving DecidableEq

/-- The signed 64-bit integer a text writes. -/
def integer? (s : String) : Option Int := Text.signedWithin? Text.int64Min Text.int64Max s.toList

namespace Requirement

/-- The single value of a requirement, as a number. -/
def bound? (r : Requirement) : Option Int :=
  match r.values with
  | [value] => integer? value
  | _ => none

/-- Whether the label is a number that stands in the given relation to the single value. -/
def compares (r : Requirement) (labels : Labels) (related : Int → Int → Bool) : Bool :=
  match (labels.get? r.key).bind integer?, r.bound? with
  | some actual, some bound => related actual bound
  | _, _ => false

/-- Whether labels satisfy a requirement. -/
def accepts (r : Requirement) (labels : Labels) : Bool :=
  match r.operator with
  | .oneOf => (labels.get? r.key).any r.values.contains
  | .noneOf => (labels.get? r.key).all fun value => !r.values.contains value
  | .present => labels.contains r.key
  | .absent => !labels.contains r.key
  | .above => r.compares labels fun actual bound => bound < actual
  | .below => r.compares labels fun actual bound => actual < bound

end Requirement

end SpotRebalance
