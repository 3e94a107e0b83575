import SpotRebalance.Document.Status
import SpotRebalance.Metrics.Exposition
import SpotRebalance.Uri

/-! # HTTP routes

The rebalancer answers three paths: `/metrics` with the exposition of its metrics, `/healthz` with a
word, and `/status` with its status. A path must match to the letter; all else in a target is
ignored. Reading is all that a path allows: `GET` answers with headers and body, `HEAD` with the
headers alone, any other method is refused. -/

namespace SpotRebalance.Http

/-- What the body of a response holds. -/
inductive Body where
  /-- Nothing. -/
  | empty
  /-- Plain text. -/
  | text (text : String)
  /-- The lines of an exposition. -/
  | exposition (lines : List String)
  /-- A document. -/
  | document (document : Document)

/-- A response. -/
structure Response where
  /-- The status code. -/
  code : Nat
  /-- The media type of the body, if there is one. -/
  mediaType : Option String
  /-- The body. -/
  body : Body

/-- What a path leads to. -/
inductive Route where
  /-- The exposition of the metrics. -/
  | metrics
  /-- A sign of life. -/
  | health
  /-- The status of the rebalancer. -/
  | status
  deriving DecidableEq

namespace Route

/-- The path of a route. -/
def path : Route → String
  | metrics => "/metrics"
  | health => "/healthz"
  | status => "/status"

/-- The route of a path. -/
def ofPath? (s : String) : Option Route := [metrics, health, status].find? (·.path == s)

/-- The media type of the answers of a route. -/
def mediaType : Route → String
  | metrics => Exposition.mediaType
  | health => "text/plain; charset=utf-8"
  | status => "application/json"

end Route

/-- Whether a character may stand in the name of a method. -/
def isMethodChar (c : Char) : Bool :=
  c.isAlphanum ||
    ['!', '#', '$', '%', '&', '\'', '*', '+', '-', '.', '^', '_', '\x60', '|', '~'].contains c

/-- A request: a method and a target. -/
structure Request where
  /-- The name of the method. -/
  method : String
  /-- The target. -/
  target : Uri
  deriving DecidableEq

/-- The request that two texts make. -/
def Request.ofTexts? (method target : String) : Option Request :=
  match Uri.parse target with
  | .ok target => if method ≠ "" ∧ method.all isMethodChar then some ⟨method, target⟩ else none
  | .error _ => none

/-- The body of a route. -/
def body (registry : MetricRegistry) (status : Status) : Route → Body
  | .metrics => .exposition (Exposition.lines registry)
  | .health => .text "ok"
  | .status => .document status.toDocument

/-- The body of a route that is asked for its headers alone. -/
def emptyBody : Route → Body
  | .metrics => .exposition []
  | .health | .status => .empty

/-- The response to a request. -/
def respond (registry : MetricRegistry) (status : Status) (r : Request) : Response :=
  match Route.ofPath? r.target.path with
  | none => ⟨404, none, .empty⟩
  | some route =>
    if r.method == "GET" then ⟨200, some route.mediaType, body registry status route⟩
    else if r.method == "HEAD" then ⟨200, some route.mediaType, emptyBody route⟩
    else ⟨405, none, .empty⟩

end SpotRebalance.Http
