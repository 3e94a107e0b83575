import SpotRebalance.Clock
import SpotRebalance.ClusterApi.Request
import SpotRebalance.Exchange
import SpotRebalance.Text.Quoted

/-! # API servers and sessions

An **API server** answers each request from a state of its own, after some time. A **session** is a
server with a clock and a log of all exchanges so far, in the order in which the requests were
sent. -/

namespace SpotRebalance

universe u

/-- An error that an API server sent. -/
structure ApiFault where
  /-- What went wrong, in words. -/
  message : String := ""
  /-- What went wrong, in one word. -/
  reason : String := ""
  /-- The status code. -/
  code : Nat
  deriving DecidableEq

/-- Whether the code is one of an error. -/
def ApiFault.isError (f : ApiFault) : Bool := 400 ≤ f.code && f.code < 600

/-- Why a request got no answer. -/
inductive ClientError where
  /-- The request could not be sent. -/
  | unsendable (fault : RequestFault)
  /-- The server sent an error. -/
  | fault (fault : ApiFault)
  /-- The connection failed. -/
  | connection (reason : String)
  /-- The answer could not be read. -/
  | unreadable (reason : String)
  /-- A line of the answer does not end. -/
  | endlessLine
  deriving DecidableEq

/-- The error in words. -/
def ClientError.message : ClientError → String
  | unsendable f => "Failed to build request: " ++ f.message
  | fault f =>
    "ApiError: " ++ f.message ++ ": " ++ f.reason ++
      " (ErrorResponse \x7b status: \"Failure\", message: " ++
      Text.quoted f.message ++ ", reason: " ++ Text.quoted f.reason ++ ", code: " ++
        toString f.code ++
      " \x7d)"
  | connection reason => "ServiceError: " ++ reason
  | unreadable reason => "Error deserializing response: " ++ reason
  | endlessLine => "Error finding newline character"

/-- An operation that an error ended. -/
structure OperationFault where
  /-- What was being done. -/
  operation : String
  /-- The error. -/
  error : ClientError
  deriving DecidableEq

/-- The fault in words. -/
def OperationFault.message (f : OperationFault) : String :=
  f.operation ++ " failed: " ++ f.error.message

/-- What a request came to. -/
abbrev ApiAnswer (request : ApiRequest) := Except ClientError request.Response

/-- A server that answers requests from a state. -/
structure ApiServer (σ : Type u) where
  /-- Answers a request. -/
  handle : (request : ApiRequest) → Exchange σ (ApiAnswer request)

/-- Asks a server; a request that cannot be sent fails at once. -/
def ApiServer.ask {σ : Type u} (api : ApiServer σ) (request : ApiRequest) :
    Exchange σ (ApiAnswer request) :=
  match request.uri with
  | .ok _ => api.handle request
  | .error fault => .done (.error (.unsendable fault))

/-- A request and its answer. -/
structure ApiExchange where
  /-- When the request was sent. -/
  sentAt : Duration
  /-- The request. -/
  request : ApiRequest
  /-- When the answer came. -/
  answeredAt : Duration
  /-- The answer. -/
  answer : ApiAnswer request

/-- A server, a clock, and what was exchanged so far. -/
structure Session (σ : Type u) where
  /-- The state of the server. -/
  server : σ
  /-- The reading of the clock. -/
  clock : Duration := ⟨0⟩
  /-- All exchanges, in the order of the requests. -/
  log : List ApiExchange := []

namespace Session

variable {σ : Type u}

/-- Sends a request at a reading of the clock, without waiting for the answer. -/
def post (api : ApiServer σ) (s : Session σ) (sentAt : Duration) (request : ApiRequest) :
    ApiExchange × Session σ :=
  let reply := api.ask request s.server
  let exchange : ApiExchange := ⟨sentAt, request, sentAt + reply.took, reply.answer⟩
  (exchange, { s with server := reply.state, log := s.log ++ [exchange] })

/-- Sends a request and waits for the answer. -/
def send (api : ApiServer σ) (request : ApiRequest) : Exchange (Session σ) (ApiAnswer request) :=
  fun s =>
    let reply := api.ask request s.server
    let answeredAt := s.clock + reply.took
    { answer := reply.answer
      took := reply.took
      state :=
        { server := reply.state
          clock := answeredAt
          log := s.log ++ [⟨s.clock, request, answeredAt, reply.answer⟩] } }

/-- Waits until a reading of the clock. -/
def waitUntil (s : Session σ) (reading : Duration) : Session σ :=
  { s with clock := max s.clock reading }

/-- Pauses. -/
def sleep (pause : Duration) : Exchange (Session σ) Unit := fun s =>
  let wake := s.clock.afterPause pause
  ⟨(), ⟨wake.nanos - s.clock.nanos⟩, s.waitUntil wake⟩

/-- Keeps an event. Whatever comes of it is ignored. -/
def announce (api : ApiServer σ) (event : ClusterEvent) : Exchange (Session σ) Unit :=
  (send api (.createEvent event)).map fun _ => ()

end Session

end SpotRebalance
