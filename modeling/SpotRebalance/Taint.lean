/-! # Taints and tolerations

A **taint** keeps pods off a node unless they carry a **toleration** for it. A toleration without a
key tolerates every taint if its operator is `anyValue`, and none otherwise. -/

namespace SpotRebalance

/-- What a taint does to pods that do not tolerate it. -/
inductive TaintEffect where
  /-- They are not scheduled onto the node. -/
  | noSchedule
  /-- The scheduler prefers other nodes for them. -/
  | preferNoSchedule
  /-- They are not scheduled onto the node and are evicted from it. -/
  | noExecute
  deriving DecidableEq

namespace TaintEffect

/-- The name of an effect in the cluster's API. -/
def name : TaintEffect → String
  | noSchedule => "NoSchedule"
  | preferNoSchedule => "PreferNoSchedule"
  | noExecute => "NoExecute"

/-- The effect of a name. -/
def ofName? (s : String) : Option TaintEffect :=
  [noSchedule, preferNoSchedule, noExecute].find? (·.name == s)

@[simp] theorem ofName?_name (e : TaintEffect) : ofName? e.name = some e := by
  cases e <;> decide

/-- Whether an effect keeps pods from being scheduled. -/
def blocks : TaintEffect → Bool
  | noSchedule | noExecute => true
  | preferNoSchedule => false

end TaintEffect

/-- A mark on a node that repels pods. -/
structure Taint where
  /-- The key of the taint. -/
  key : String
  /-- The value, if there is one. -/
  value : Option String := none
  /-- What the taint does. -/
  effect : TaintEffect
  deriving DecidableEq

/-- How a toleration compares values. -/
inductive TolerationOperator where
  /-- The values must be equal, an absent one counting as empty. -/
  | equalValue
  /-- Any value will do. -/
  | anyValue
  deriving DecidableEq

/-- The name of an operator in the cluster's API. -/
def TolerationOperator.name : TolerationOperator → String
  | equalValue => "Equal"
  | anyValue => "Exists"

/-- A permission of a pod to run in spite of taints. -/
structure Toleration where
  /-- The key of the taints; absent or empty for every key. -/
  key : Option String := none
  /-- How values are compared. -/
  operator : TolerationOperator := .equalValue
  /-- The value compared with. -/
  value : Option String := none
  /-- The effect of the taints; absent for every effect. -/
  effect : Option TaintEffect := none
  deriving DecidableEq

/-- Whether a toleration covers the effect of a taint. -/
def Toleration.coversEffect (tol : Toleration) (taint : Taint) : Bool :=
  tol.effect.all (· == taint.effect)

/-- Whether a toleration covers the key and the value of a taint. -/
def Toleration.coversKey (tol : Toleration) (taint : Taint) : Bool :=
  match tol.key.filter (· != "") with
  | none => tol.operator == .anyValue
  | some key =>
    key == taint.key &&
      (tol.operator == .anyValue || tol.value.getD "" == taint.value.getD "")

/-- Whether a toleration tolerates a taint. -/
def Toleration.tolerates (tol : Toleration) (taint : Taint) : Bool :=
  tol.coversEffect taint && tol.coversKey taint

end SpotRebalance
