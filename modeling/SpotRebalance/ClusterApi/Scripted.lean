import SpotRebalance.ClusterApi.Server

/-! # Scripted servers

A **scripted server** lists fixed items, accepts every eviction and every event, and knows no pods,
except where a script says otherwise. A **script** is a list of replies: each request takes the next
one, and the last one repeats. Evictions and look-ups have a script for each pod key. -/

namespace SpotRebalance

/-- How a scripted server answers a request. -/
inductive ScriptedAnswer where
  /-- As it does without a script. -/
  | usual
  /-- With an error. -/
  | fault (fault : ApiFault)
  /-- Not at all: the connection fails. -/
  | broken
  /-- With something that cannot be read. -/
  | garbage
  /-- With a pod of an identity on a node. -/
  | found (uid node : Option String)
  deriving DecidableEq

/-- A scripted reply. -/
structure ScriptedReply where
  /-- The answer. -/
  answer : ScriptedAnswer := .usual
  /-- How long it takes. -/
  delay : Duration := ⟨0⟩
  deriving DecidableEq

/-- Replies to the requests of one sort, in order. -/
abbrev Script := List ScriptedReply

/-- The next reply of a script, and the script after it. -/
def Script.next : Script → ScriptedReply × Script
  | [] => ({}, [])
  | [last] => (last, [last])
  | reply :: rest => (reply, rest)

/-- The items and scripts of a server. -/
structure ScriptedServer where
  /-- The nodes. -/
  nodes : List NodeManifest := []
  /-- The pods that still occupy a node. -/
  pods : List PodManifest := []
  /-- The pods that are not bound. -/
  pending : List PodManifest := []
  /-- The disruption budgets. -/
  budgets : List BudgetManifest := []
  /-- The script of node listings. -/
  nodesScript : Script := []
  /-- The script of pod listings. -/
  podsScript : Script := []
  /-- The script of listings of pods that are not bound. -/
  pendingScript : Script := []
  /-- The script of budget listings. -/
  budgetsScript : Script := []
  /-- The script of events. -/
  eventsScript : Script := []
  /-- The scripts of evictions by pod key. -/
  evictions : NameTable Script := ∅
  /-- The scripts of look-ups by pod key. -/
  lookups : NameTable Script := ∅
  deriving Inhabited

namespace ScriptedServer

/-- Why the connection to a scripted server fails. -/
def resetReason : String := "connection reset"

/-- Why an answer cannot be read. -/
def garbageReason : String := "expected value at line 1 column 1"

/-- What a script says instead of the usual answer. A fault whose code is not that of an error reads
as the status of an operation. -/
def override? (answer : ScriptedAnswer) : Option ClientError :=
  match answer with
  | .fault f => some (if f.isError then .fault f else .unreadable garbageReason)
  | .broken => some (.connection resetReason)
  | .garbage => some (.unreadable garbageReason)
  | .usual | .found .. => none

/-- The answer to a listing. -/
def listing {α : Type} (reply : ScriptedReply) (items : List α) : Except ClientError (List α) :=
  match override? reply.answer with
  | some e => .error e
  | none => .ok items

/-- The answer to an eviction, or to an event. -/
def acceptance (reply : ScriptedReply) : Except ClientError Unit :=
  match reply.answer with
  | .fault f => if f.isError then .error (.fault f) else .ok ()
  | .broken => .error (.connection resetReason)
  | .garbage => .error (.unreadable garbageReason)
  | .usual | .found .. => .ok ()

/-- The error of a look-up that finds nothing. -/
def notFound (pod : Pod) : ApiFault := ⟨"pods \"" ++ pod.name ++ "\" not found", "NotFound", 404⟩

/-- The answer to a look-up. -/
def lookup (reply : ScriptedReply) (pod : Pod) : Except ClientError PodManifest :=
  match reply.answer with
  | .found uid node =>
    .ok {
      metadata := { name := some pod.name, ns := some pod.ns, uid }
      spec := some { nodeName := node } }
  | other =>
    match override? other with
    | some e => .error e
    | none => .error (.fault (notFound pod))

/-- The script of a pod. -/
def scriptOf (scripts : NameTable Script) (pod : Pod) : Script := (scripts.get? pod.key).getD []

/-- The scripts after a reply to a pod. -/
def advance (scripts : NameTable Script) (pod : Pod) (rest : Script) : NameTable Script :=
  if scripts.contains pod.key then scripts.insert pod.key rest else scripts

/-- Answers a request. -/
def handle : (request : ApiRequest) → Exchange ScriptedServer (ApiAnswer request)
  | .listNodes => fun s =>
    let (reply, rest) := Script.next s.nodesScript
    ⟨listing reply s.nodes, reply.delay, { s with nodesScript := rest }⟩
  | .listPods .active => fun s =>
    let (reply, rest) := Script.next s.podsScript
    ⟨listing reply s.pods, reply.delay, { s with podsScript := rest }⟩
  | .listPods .pending => fun s =>
    let (reply, rest) := Script.next s.pendingScript
    ⟨listing reply s.pending, reply.delay, { s with pendingScript := rest }⟩
  | .listBudgets => fun s =>
    let (reply, rest) := Script.next s.budgetsScript
    ⟨listing reply s.budgets, reply.delay, { s with budgetsScript := rest }⟩
  | .getPod pod => fun s =>
    let (reply, rest) := Script.next (scriptOf s.lookups pod)
    ⟨lookup reply pod, reply.delay, { s with lookups := advance s.lookups pod rest }⟩
  | .evict pod _ => fun s =>
    let (reply, rest) := Script.next (scriptOf s.evictions pod)
    ⟨acceptance reply, reply.delay, { s with evictions := advance s.evictions pod rest }⟩
  | .createEvent _ => fun s =>
    let (reply, rest) := Script.next s.eventsScript
    ⟨acceptance reply, reply.delay, { s with eventsScript := rest }⟩

/-- The API of a scripted server. -/
def api : ApiServer ScriptedServer := ⟨handle⟩

end ScriptedServer

end SpotRebalance
