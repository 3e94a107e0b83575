import SpotRebalance.ClusterApi.Server

/-! # Faults of drains

Why a drain fails, and how the refusal of an eviction is taken. A refusal for too many requests or
by an internal error of the server is temporary, like any failure to get an answer; a pod that is
not found is gone, which is as good as evicted; any other refusal is final.

A drain that fails has come to an end. One that is **interrupted** (`Interruption`) has not: it
sends nothing more, and it gives no answer. -/

namespace SpotRebalance

/-- Why a drain failed. -/
inductive EvictionFault where
  /-- The API server refused an eviction for good. -/
  | rejected (pod : String) (error : ClientError)
  /-- An eviction kept failing until its time was up. -/
  | timedOut (pod : String) (timeout : Duration) (lastError : String)
  /-- Evicted pods were still there when their time was up. -/
  | notDeleted (pods : List String) (timeout : Duration)
  deriving DecidableEq

/-- The fault in words. -/
def EvictionFault.message : EvictionFault → String
  | rejected pod error => "eviction of pod " ++ pod ++ " was rejected: " ++ error.message
  | timedOut pod timeout lastError =>
    "eviction of pod " ++ pod ++ " did not succeed within " ++ timeout.text ++ ": " ++ lastError
  | notDeleted pods timeout =>
    "pods not deleted within " ++ timeout.text ++ ": " ++ String.intercalate ", " pods

/-- Why a drain does not come to an end. -/
inductive Interruption where
  /-- A deadline lies beyond the end of the clock. The work breaks off where it would be set. -/
  | clockExhausted
  /-- No pause is made between attempts or between passes, and they go on for ever. -/
  | stalled
  deriving DecidableEq

/-- How a refused eviction is taken. -/
inductive Refusal where
  /-- It may succeed later. -/
  | temporary
  /-- The pod is not there any more. -/
  | gone
  /-- It will not succeed. -/
  | final
  deriving DecidableEq

/-- How an error of an eviction is taken. -/
def ClientError.refusal : ClientError → Refusal
  | fault f =>
    if f.code = 429 ∨ f.code = 500 then .temporary else if f.code = 404 then .gone else .final
  | unsendable _ | connection _ | unreadable _ | endlessLine => .temporary

end SpotRebalance
