import SpotRebalance.Text.Blank
import SpotRebalance.Text.Quoted

/-! # Wire formats

The encodings that can be asked of the API server, by their short names or media types. Upper and
lower case ASCII letters count as the same, and blanks around a name are ignored. -/

namespace SpotRebalance

/-- Why the access to the cluster could not be set up. -/
structure AccessFault where
  /-- The reason. -/
  reason : String
  deriving DecidableEq

/-- The fault in words. -/
def AccessFault.message (f : AccessFault) : String :=
  "failed to load cluster configuration: " ++ f.reason

/-- An encoding of requests. -/
inductive WireFormat where
  /-- JSON. -/
  | json
  /-- Protocol buffers. -/
  | protobuf
  deriving DecidableEq

namespace WireFormat

/-- The media type of a format. -/
def mediaType : WireFormat → String
  | json => "application/json"
  | protobuf => "application/vnd.kubernetes.protobuf"

/-- The lower-case counterpart of an ASCII letter, and any other character itself. -/
def lower (s : String) : String := String.ofList (s.toList.map Char.toLower)

/-- The format of a name. -/
def ofName (s : String) : Except AccessFault WireFormat :=
  let name := lower (Text.trim s)
  if name = "json" ∨ name = json.mediaType then .ok json
  else if name = "protobuf" ∨ name = protobuf.mediaType then .ok protobuf
  else .error ⟨"unsupported content type " ++ Text.quoted name⟩

end WireFormat

end SpotRebalance
