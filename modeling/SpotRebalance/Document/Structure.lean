import SpotRebalance.Document
import SpotRebalance.Text.Quoted

/-! # Structures of documents

A **structure** says what a document must look like, and what the first thing is that does not. Null
stands for a list without items and for a record without fields. The fields of a record are looked
at in the order in which they stand, and those that must be there are missed only after that. -/

namespace SpotRebalance

/-- Why a document does not have a structure. -/
inductive StructureFault where
  /-- Something else was expected. -/
  | unexpected (found : Document) (expected : String)
  /-- A field is missing. -/
  | missing (key : String)

/-- What a document is, in words. -/
def Document.kind : Document → String
  | .null => "unit value"
  | .truth value => "boolean \x60" ++ toString value ++ "\x60"
  | .integer value => "integer \x60" ++ toString value ++ "\x60"
  | .decimal digits => "floating point \x60" ++ digits ++ "\x60"
  | .text value => "string " ++ Text.quoted value
  | .list _ => "sequence"
  | .record _ => "map"

/-- The fault in words. -/
def StructureFault.message : StructureFault → String
  | unexpected found expected => "invalid type: " ++ found.kind ++ ", expected " ++ expected
  | missing key => "missing field \x60" ++ key ++ "\x60"

/-- What a document must look like: finds what does not. -/
abbrev Structure := Document → Option StructureFault

namespace Structure

/-- Structures by field name. -/
abbrev Fields := List (String × Structure)

/-- Anything. -/
def any : Structure := fun _ => none

/-- A text. -/
def text : Structure
  | .text _ => none
  | d => some (.unexpected d "a string")

/-- A truth value. -/
def truth : Structure
  | .truth _ => none
  | d => some (.unexpected d "a boolean")

/-- Something, or null. -/
def orNull (s : Structure) : Structure
  | .null => none
  | d => s d

/-- A list. -/
def listOf (item : Structure) : Structure
  | .null => none
  | .list items => items.findSome? item
  | d => some (.unexpected d "a sequence")

/-- A record whose field names are names of their own. -/
def tableOf (value : Structure) : Structure
  | .null => none
  | .record fields => fields.findSome? fun e => value e.2
  | d => some (.unexpected d "a map")

/-- The first of some fields that is missing. -/
def missing? (required : List String) (fields : Document.Fields) : Option StructureFault :=
  (required.find? fun key => (fields.lookup key).isNone).map .missing

/-- A record with a name, fields that must be there, and others that may be null or missing. -/
def record (name : String) (required other : Fields) : Structure
  | .null => missing? (required.map (·.1)) []
  | .record fields =>
    let known := required ++ other.map fun e => (e.1, e.2.orNull)
    (fields.findSome? fun e => (known.lookup e.1).bind fun s => s e.2).or
      (missing? (required.map (·.1)) fields)
  | d => some (.unexpected d ("struct " ++ name))

/-- Fields of one structure. -/
def each (s : Structure) (keys : List String) : Fields := keys.map (·, s)

end Structure

end SpotRebalance
