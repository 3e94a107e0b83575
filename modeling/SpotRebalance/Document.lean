import SpotRebalance.NameTable
import SpotRebalance.Text.Decimal

/-! # Documents

A **document** is structured data as JSON text writes it. A **reader** makes a value of a document
of the right form. Records are read field by field: a field is `required`, or `optional` and then
also absent when it is null, or has a default for when it is missing. A **closed** record has no
fields but those known, and null is one without fields; any other record may have more, and they are
ignored. -/

namespace SpotRebalance

universe u

/-- Structured data. -/
inductive Document where
  /-- Nothing. -/
  | null
  /-- A truth value. -/
  | truth (value : Bool)
  /-- A whole number. -/
  | integer (value : Int)
  /-- A number with a fraction or an exponent, as it is written. -/
  | decimal (text : String)
  /-- A text. -/
  | text (value : String)
  /-- A list. -/
  | list (items : List Document)
  /-- Values by field name. -/
  | record (fields : List (String × Document))
  deriving Inhabited

namespace Document

/-- A way to read a value, if the document has the right form. -/
abbrev Reader (α : Type u) := Document → Option α

/-- The fields of a record. -/
abbrev Fields := List (String × Document)

variable {α β : Type}

/-! ## Reading -/

/-- Any document. -/
def any? : Reader Document := some

/-- A text. -/
def text? : Reader String
  | text value => some value
  | _ => none

/-- A truth value. -/
def truth? : Reader Bool
  | truth value => some value
  | _ => none

/-- An integer within bounds. -/
def integer? (low high : Int) : Reader Int
  | integer n => if low ≤ n ∧ n ≤ high then some n else none
  | _ => none

/-- A natural number that fits a number of bits. -/
def natural? (bits : Nat) : Reader Nat :=
  fun d => (integer? 0 (Nat.pow 2 bits - 1 : Nat) d).map Int.toNat

/-- A signed 32-bit integer. -/
def int32? : Reader Int := integer? Text.int32Min Text.int32Max

/-- A signed 64-bit integer. -/
def int64? : Reader Int := integer? Text.int64Min Text.int64Max

/-- A count in a 64-bit word. -/
def count? : Reader Nat := natural? 64

/-- A list of items. -/
def list? (item : Reader α) : Reader (List α)
  | list items => items.mapM item
  | _ => none

/-- A list of texts. -/
def texts? : Reader (List String) := list? text?

/-- The fields of a record. -/
def fields? : Reader Fields
  | record fields => some fields
  | _ => none

/-- A record whose field names are names of their own. -/
def table? (value : Reader α) : Reader (NameTable α) := fun d => do
  return .ofList (← (← d.fields?).mapM fun e => (value e.2).map (e.1, ·))

/-- A value by its name. -/
def named? (ofName? : String → Option α) : Reader α := fun d => d.text?.bind ofName?

/-- A value by its name, which may also be the name of the only field of a record, with null in
it. -/
def tagged? (ofName? : String → Option α) : Reader α
  | record [(name, null)] => ofName? name
  | d => named? ofName? d

/-- One of some values by its name. -/
def oneOf? (values : List α) (name : α → String) (s : String) : Option α :=
  values.find? fun value => name value == s

/-- A record. -/
def open? (read : Fields → Option α) : Reader α := fun d => d.fields?.bind read

/-- The fields of a document; what is no record has none. -/
def fieldsOrNone : Document → Fields
  | record fields => fields
  | _ => []

/-- A record with known fields only. -/
def closed? (known : List String) (read : Fields → Option α) : Reader α
  | null => read []
  | d => d.open? fun fields => if fields.all fun e => known.contains e.1 then read fields else none

namespace Fields

/-- A field that must be there. -/
def required (fields : Fields) (key : String) (value : Reader α) : Option α := do
  value (← fields.lookup key)

/-- A field that is absent when it is missing or null. -/
def optional (fields : Fields) (key : String) (value : Reader α) : Option (Option α) :=
  match fields.lookup key with
  | none | some .null => some none
  | some d => (value d).map some

/-- A field with a default for when it is missing. -/
def orElse (fields : Fields) (key : String) (value : Reader α) (missing : α) : Option α :=
  match fields.lookup key with
  | none => some missing
  | some d => value d

/-- A field with a default for when it is missing or null. -/
def orEmpty (fields : Fields) (key : String) (value : Reader α) (empty : α) : Option α :=
  (fields.optional key value).map (·.getD empty)

/-- A list that is empty when it is missing or null. -/
def listed (fields : Fields) (key : String) (item : Reader α) : Option (List α) :=
  fields.orEmpty key (list? item) []

/-- A field that is null when it is missing. -/
def orNull (fields : Fields) (key : String) (value : Reader α) : Option α :=
  value ((fields.lookup key).getD null)

/-- The text of a field, if it is one. -/
def textAt? (fields : Fields) (key : String) : Option String := (fields.lookup key).bind text?

/-- The fields of a record in a field, if it is one. -/
def recordAt? (fields : Fields) (key : String) : Option Fields :=
  (fields.lookup key).bind Document.fields?

/-- The items of a list in a field; what is no list has none. -/
def itemsAt (fields : Fields) (key : String) : List Document :=
  match fields.lookup key with
  | some (.list items) => items
  | _ => []

end Fields

/-! ## Writing -/

/-- A natural number. -/
def ofNat (n : Nat) : Document := integer n

/-- A list of items. -/
def ofList (item : α → Document) (items : List α) : Document := list (items.map item)

/-- A list of texts. -/
def ofTexts (texts : List String) : Document := ofList text texts

/-- A value, or null. -/
def ofOption (value : α → Document) : Option α → Document
  | some a => value a
  | none => null

/-- A record with a field for each name of a table. -/
def ofTable (value : α → Document) (table : NameTable α) : Document :=
  record (table.entries.map fun e => (e.1, value e.2))

/-- A field, or none. -/
def ofField? (key : String) (value : α → Document) : Option α → Fields
  | some a => [(key, value a)]
  | none => []

end Document

end SpotRebalance
