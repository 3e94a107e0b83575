import SpotRebalance.Document
import SpotRebalance.Text.Decimal

/-! # JSON tokens

JSON text is a sequence of **tokens**, with blanks between them: brackets, commas, colons, and
**scalars**, which are documents of their own. The scan takes one character at a time and keeps what
the characters of an unfinished token have come to. A number with a fraction or an exponent, or
minus zero, is kept as it is written. A character beyond the first plane is escaped as two code
units, which must not stand alone. -/

namespace SpotRebalance.Json

/-- A token. -/
inductive Token where
  /-- The start of a list. -/
  | openList
  /-- The end of a list. -/
  | closeList
  /-- The start of a record. -/
  | openRecord
  /-- The end of a record. -/
  | closeRecord
  /-- A comma. -/
  | comma
  /-- A colon. -/
  | colon
  /-- Null, a truth value, a number or a text. -/
  | scalar (value : Document)

/-! ## Words -/

/-- Whether a character may stand between tokens. -/
def isBlank (c : Char) : Bool := [' ', '\t', '\n', '\r'].contains c

/-- Whether a character may stand in a word: a literal or a number. -/
def isWordChar (c : Char) : Bool := c.isAlphanum || ['+', '-', '.'].contains c

/-- Whether there are digits and nothing else. -/
def areDigits (cs : List Char) : Bool := !cs.isEmpty && cs.all Text.isDigit

/-- Whether there are digits, perhaps with a sign, and nothing else. -/
def areSignedDigits : List Char → Bool
  | '+' :: digits | '-' :: digits => areDigits digits
  | digits => areDigits digits

/-- Whether there is an exponent. -/
def isExponent : List Char → Bool
  | 'e' :: rest | 'E' :: rest => areSignedDigits rest
  | _ => false

/-- Whether there is a fraction, an exponent, or both in this order. -/
def isTail : List Char → Bool
  | '.' :: rest =>
    let exponent := rest.dropWhile Text.isDigit
    areDigits (rest.takeWhile Text.isDigit) && (exponent.isEmpty || isExponent exponent)
  | rest => isExponent rest

/-- The number without a sign that a word writes: its value if it is whole, and nothing inside if it
has a fraction or an exponent. -/
def magnitude? (cs : List Char) : Option (Option Nat) := do
  let whole := cs.takeWhile Text.isDigit
  let rest := cs.dropWhile Text.isDigit
  if whole.head? = some '0' ∧ whole ≠ ['0'] then none
  let value ← Text.digitsValue? whole
  if rest.isEmpty then some (some value) else if isTail rest then some none else none

/-- The number that a word writes. -/
def number? (word : List Char) : Option Document :=
  match word with
  | '-' :: cs =>
    (magnitude? cs).map fun
      | some (n + 1) => .integer (-(n + 1 : Nat))
      | some 0 | none => .decimal (String.ofList word)
  | cs =>
    (magnitude? cs).map fun
      | some n => .integer n
      | none => .decimal (String.ofList word)

/-- The value of a word. -/
def word? (word : List Char) : Option Document :=
  match String.ofList word with
  | "null" => some .null
  | "true" => some (.truth true)
  | "false" => some (.truth false)
  | _ => number? word

/-! ## Code units -/

/-- The value of a hexadecimal digit. -/
def hexDigit? (c : Char) : Option Nat :=
  if 'a' ≤ c ∧ c ≤ 'f' then some (c.toNat - 'a'.toNat + 10)
  else if 'A' ≤ c ∧ c ≤ 'F' then some (c.toNat - 'A'.toNat + 10)
  else Text.digitValue? c

/-- Whether a code unit is the first of two. -/
def isHigh (unit : Nat) : Bool := 0xd800 ≤ unit && unit ≤ 0xdbff

/-- Whether a code unit is the second of two. -/
def isLow (unit : Nat) : Bool := 0xdc00 ≤ unit && unit ≤ 0xdfff

/-- The character of two code units. -/
def paired (high low : Nat) : Char :=
  Char.ofNat (0x10000 + (high - 0xd800) * 0x400 + (low - 0xdc00))

/-- The character that an escape of one letter writes. -/
def escaped? : Char → Option Char
  | '"' => some '"'
  | '\\' => some '\\'
  | '/' => some '/'
  | 'b' => some '\x08'
  | 'f' => some '\x0c'
  | 'n' => some '\n'
  | 'r' => some '\r'
  | 't' => some '\t'
  | _ => none

/-! ## The scan -/

/-- What the characters of an unfinished token have come to; texts and words have their latest
character in front. -/
inductive Scan where
  /-- There is none. -/
  | between
  /-- A word. -/
  | word (latest : List Char)
  /-- A text, and the first of two code units if the second is to come. -/
  | text (latest : List Char) (high : Option Nat)
  /-- A text with a backslash at the end. -/
  | escape (latest : List Char) (high : Option Nat)
  /-- A text with a code unit at the end of which some digits are to come. -/
  | unit (latest : List Char) (high : Option Nat) (missing value : Nat)

/-- The tokens so far, the latest in front, and the unfinished one. -/
abbrev Scanned := Scan × List Token

/-- Takes a character between tokens. -/
def scanStart (tokens : List Token) (c : Char) : Option Scanned :=
  match c with
  | '[' => some (.between, .openList :: tokens)
  | ']' => some (.between, .closeList :: tokens)
  | '\x7b' => some (.between, .openRecord :: tokens)
  | '\x7d' => some (.between, .closeRecord :: tokens)
  | ',' => some (.between, .comma :: tokens)
  | ':' => some (.between, .colon :: tokens)
  | '"' => some (.text [] none, tokens)
  | c =>
    if isBlank c then some (.between, tokens)
    else if isWordChar c then some (.word [c], tokens)
    else none

/-- Takes a character of a text. -/
def scanText (tokens : List Token) (latest : List Char) (high : Option Nat) (c : Char) :
    Option Scanned :=
  if c = '\\' then some (.escape latest high, tokens)
  else if high.isSome || c < ' ' then none
  else if c = '"' then some (.between, .scalar (.text (String.ofList latest.reverse)) :: tokens)
  else some (.text (c :: latest) none, tokens)

/-- Takes a character after a backslash. -/
def scanEscape (tokens : List Token) (latest : List Char) (high : Option Nat) (c : Char) :
    Option Scanned :=
  if c = 'u' then some (.unit latest high 4 0, tokens)
  else if high.isSome then none
  else (escaped? c).map fun c => (.text (c :: latest) none, tokens)

/-- The text after a code unit. -/
def afterUnit? (latest : List Char) (high : Option Nat) (unit : Nat) : Option Scan :=
  match high with
  | some high => if isLow unit then some (.text (paired high unit :: latest) none) else none
  | none =>
    if isLow unit then none
    else if isHigh unit then some (.text latest (some unit))
    else some (.text (Char.ofNat unit :: latest) none)

/-- Takes one character. -/
def scanChar : Scanned → Char → Option Scanned
  | (.between, tokens), c => scanStart tokens c
  | (.word latest, tokens), c =>
    if isWordChar c then some (.word (c :: latest), tokens)
    else (word? latest.reverse).bind fun value => scanStart (.scalar value :: tokens) c
  | (.text latest high, tokens), c => scanText tokens latest high c
  | (.escape latest high, tokens), c => scanEscape tokens latest high c
  | (.unit latest high missing value, tokens), c =>
    (hexDigit? c).bind fun digit =>
      if missing = 1 then (afterUnit? latest high (value * 16 + digit)).map (·, tokens)
      else some (.unit latest high (missing - 1) (value * 16 + digit), tokens)

/-- The tokens of a text. A blank at the end finishes the last one. -/
def tokens? (s : String) : Option (List Token) := do
  match ← (s.toList ++ [' ']).foldlM scanChar (.between, []) with
  | (.between, tokens) => some tokens.reverse
  | _ => none

end SpotRebalance.Json
