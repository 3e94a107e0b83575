import SpotRebalance.Document
import SpotRebalance.Instant.Relaxed

/-! # Forms of documents

A **form** says what a document may look like, without reading anything from it. A record of a form
has a form for each of the fields that are known; a field may be missing or null, and fields that
are not known may look as they like. -/

namespace SpotRebalance

/-- What a document may look like. -/
abbrev Form := Document → Bool

namespace Form

/-- Forms by field name. -/
abbrev Fields := List (String × Form)

/-- Anything. -/
def any : Form := fun _ => true

/-- A text. -/
def text : Form := fun d => d.text?.isSome

/-- A truth value. -/
def truth : Form := fun d => d.truth?.isSome

/-- A signed 32-bit integer. -/
def int32 : Form := fun d => d.int32?.isSome

/-- A signed 64-bit integer. -/
def int64 : Form := fun d => d.int64?.isSome

/-- A signed 32-bit integer or a text. -/
def int32OrText : Form := fun d => int32 d || text d

/-- An instant in relaxed notation. -/
def instant : Form := fun d => (d.named? Instant.ofRelaxedText?).isSome

/-- One text. -/
def fixed (value : String) : Form
  | .text s => s == value
  | _ => false

/-- A list of items of a form. -/
def listOf (item : Form) : Form
  | .list items => items.all item
  | _ => false

/-- A record whose field names are names of their own, with values of a form. -/
def tableOf (value : Form) : Form
  | .record fields => fields.all fun e => value e.2
  | _ => false

/-- A list of texts. -/
def textList : Form := listOf text

/-- A record of texts by names of their own. -/
def textTable : Form := tableOf text

/-- A form, or nothing. -/
def orNull (form : Form) : Form
  | .null => true
  | d => form d

/-- A record with forms for its known fields. -/
def record (known : Fields) : Form
  | .record fields => fields.all fun e =>
    ((known.lookup e.1).map fun form => form.orNull e.2).getD true
  | _ => false

/-- A record with a field that must be there. -/
def requiring (key : String) (form : Form) : Form
  | .record fields => (fields.lookup key).any form
  | _ => false

/-- Fields of one form. -/
def each (form : Form) (keys : List String) : Fields := keys.map (·, form)

/-- Fields that are texts. -/
def texts (keys : List String) : Fields := each text keys

/-- A record with known fields that are all texts. -/
def textRecord (keys : List String) : Form := record (texts keys)

end Form

end SpotRebalance
