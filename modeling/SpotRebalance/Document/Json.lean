import SpotRebalance.Document.Json.Token

/-! # JSON text

JSON text writes one document. `Json.read?` reads it from its tokens with the lists and records that
are still open on a stack; the stack has a limit, so documents that nest deeper are refused. Of two
fields of one name the later counts. `Json.write` writes a document without blanks. -/

namespace SpotRebalance.Json

/-! ## Reading -/

/-- A list or record that is still open, with its latest part in front. -/
inductive Frame where
  /-- A list with its items so far. -/
  | items (latest : List Document)
  /-- A record with its fields so far, and the name of the next. -/
  | fields (latest : Document.Fields) (key : String)

/-- What may come next. -/
inductive Awaited where
  /-- A value. -/
  | value
  /-- The first item of a list, or its end. -/
  | firstItem
  /-- The name of a field. -/
  | key
  /-- The name of the first field of a record, or its end. -/
  | firstKey
  /-- The colon after the name of a field. -/
  | colon
  /-- A comma, or the end of the innermost list or record. -/
  | separator
  deriving DecidableEq

/-- What the tokens so far have come to. -/
inductive Reading where
  /-- A document that is not complete, innermost frames first. -/
  | incomplete (frames : List Frame) (awaited : Awaited)
  /-- A document. -/
  | complete (value : Document)

/-- The most frames that may be open. -/
def mostFrames : Nat := 127

/-- Adds a value to the innermost frame; without one the document is complete. -/
def Reading.finish (value : Document) : List Frame → Reading
  | [] => .complete value
  | .items latest :: frames => .incomplete (.items (value :: latest) :: frames) .separator
  | .fields latest key :: frames =>
    .incomplete (.fields ((key, value) :: latest) "" :: frames) .separator

/-- Opens a frame. -/
def Reading.enter? (frame : Frame) (awaited : Awaited) (frames : List Frame) : Option Reading :=
  if frames.length < mostFrames then some (.incomplete (frame :: frames) awaited) else none

/-- The record of fields, the latest in front. -/
def recordOf (latest : Document.Fields) : Document :=
  .record (NameTable.ofList latest.reverse).entries

/-- Takes a token where a value may stand. -/
def Reading.takeValue? (frames : List Frame) : Token → Option Reading
  | .scalar value => some (finish value frames)
  | .openList => enter? (.items []) .firstItem frames
  | .openRecord => enter? (.fields [] "") .firstKey frames
  | .closeList | .closeRecord | .comma | .colon => none

/-- Takes a token after a value. -/
def Reading.takeSeparator? : List Frame → Token → Option Reading
  | .items latest :: frames, .comma => some (.incomplete (.items latest :: frames) .value)
  | .items latest :: frames, .closeList => some (finish (.list latest.reverse) frames)
  | .fields latest _ :: frames, .comma => some (.incomplete (.fields latest "" :: frames) .key)
  | .fields latest _ :: frames, .closeRecord => some (finish (recordOf latest) frames)
  | _, _ => none

/-- Takes a token where the name of a field may stand. -/
def Reading.takeKey? : List Frame → Token → Option Reading
  | .fields latest _ :: frames, .scalar (.text key) =>
    some (.incomplete (.fields latest key :: frames) .colon)
  | _, _ => none

/-- Takes a token. -/
def Reading.take? : Reading → Token → Option Reading
  | .incomplete frames .firstItem, .closeList => takeSeparator? frames .closeList
  | .incomplete frames .firstKey, .closeRecord => takeSeparator? frames .closeRecord
  | .incomplete frames .value, token | .incomplete frames .firstItem, token =>
    takeValue? frames token
  | .incomplete frames .key, token | .incomplete frames .firstKey, token => takeKey? frames token
  | .incomplete frames .colon, .colon => some (.incomplete frames .value)
  | .incomplete frames .separator, token => takeSeparator? frames token
  | .incomplete _ .colon, _ | .complete _, _ => none

/-- The document that JSON text writes. -/
def read? (s : String) : Option Document := do
  match ← (← tokens? s).foldlM Reading.take? (.incomplete [] .value) with
  | .complete value => some value
  | .incomplete .. => none

/-! ## Writing -/

/-- How one character is written in a text. -/
def writeChar (c : Char) : String :=
  if c = '"' then "\\\""
  else if c = '\\' then "\\\\"
  else if c < ' ' then
    "\\u00" ++ String.ofList [Nat.digitChar (c.toNat / 16), Nat.digitChar (c.toNat % 16)]
  else c.toString

/-- Writes a text. -/
def writeText (s : String) : String := "\"" ++ String.join (s.toList.map writeChar) ++ "\""

mutual

/-- Writes a document. -/
def write : Document → String
  | .null => "null"
  | .truth value => if value then "true" else "false"
  | .integer value => toString value
  | .decimal text => text
  | .text value => writeText value
  | .list items => "[" ++ String.intercalate "," (writeItems items) ++ "]"
  | .record fields => "\x7b" ++ String.intercalate "," (writeFields fields) ++ "\x7d"

/-- Writes items. -/
def writeItems : List Document → List String
  | [] => []
  | d :: items => write d :: writeItems items

/-- Writes fields. -/
def writeFields : Document.Fields → List String
  | [] => []
  | (key, d) :: fields => (writeText key ++ ":" ++ write d) :: writeFields fields

end

end SpotRebalance.Json
