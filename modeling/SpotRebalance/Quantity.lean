import SpotRebalance.Amount
import SpotRebalance.Text.Blank
import SpotRebalance.Text.Decimal
import SpotRebalance.Text.Quoted

/-! # Quantities

A **quantity** is a decimal number with an optional suffix: a decimal one (`m`, `k`, `M`, …), a
binary one (`Ki`, `Mi`, …) or an exponent (`e3`). It is read exactly, as
`mantissa · 10 ^ tens · 2 ^ twos`, and counted in a decimal unit by `scaled`, rounded up.

Mantissas live in a 128-bit word and powers of ten in a signed 32-bit word. A text is refused if its
mantissa or its places behind the point do not fit, or if an exponent takes the power of ten out of
its word. What a letter adds to the power of ten is not checked; `readInWords` tells what becomes of
that. A count that leaves the 128-bit word on the way is taken for more than any amount can
count. -/

namespace SpotRebalance

/-- The number `mantissa · 10 ^ tens · 2 ^ twos`. -/
structure Quantity where
  /-- The digits, read as one whole number. -/
  mantissa : Nat
  /-- The power of ten. -/
  tens : Int
  /-- The power of two. -/
  twos : Nat
  deriving DecidableEq

/-- A text that is no quantity. -/
structure InvalidQuantity where
  /-- The text. -/
  text : String
  deriving DecidableEq

/-- The error in words. -/
def InvalidQuantity.message (e : InvalidQuantity) : String :=
  "invalid quantity " ++ Text.quoted e.text

/-- The suffix of a quantity. -/
inductive QuantitySuffix where
  /-- A power of ten that a letter stands for. -/
  | decimal (tens : Int)
  /-- A power of two. -/
  | binary (twos : Nat)
  /-- A power of ten in digits. -/
  | exponent (tens : Int)
  deriving DecidableEq

namespace QuantitySuffix

/-- The letters for powers of ten. -/
def decimalLetters : List (List Char × Int) :=
  [([], 0), (['n'], -9), (['u'], -6), (['m'], -3), (['k'], 3), (['M'], 6), (['G'], 9), (['T'], 12),
    (['P'], 15), (['E'], 18)]

/-- The letters for powers of two. -/
def binaryLetters : List (List Char × Nat) :=
  [(['K', 'i'], 10), (['M', 'i'], 20), (['G', 'i'], 30), (['T', 'i'], 40), (['P', 'i'], 50),
    (['E', 'i'], 60)]

/-- The exponent after `e` or `E`. -/
def exponent? : List Char → Option Int
  | c :: cs =>
    if c = 'e' ∨ c = 'E' then Text.signedWithin? Text.int32Min Text.int32Max cs else none
  | [] => none

/-- The suffix that characters spell. -/
def ofChars? (cs : List Char) : Option QuantitySuffix :=
  match decimalLetters.lookup cs, binaryLetters.lookup cs with
  | some tens, _ => some (.decimal tens)
  | none, some twos => some (.binary twos)
  | none, none => (exponent? cs).map .exponent

end QuantitySuffix

namespace Quantity

/-- The first number that leaves the 128-bit word. -/
def wordBound : Nat := 340282366920938463463374607431768211456

/-- Whether an integer fits the signed 32-bit word. -/
def fitsExponent (n : Int) : Prop := Text.int32Min ≤ n ∧ n ≤ Text.int32Max

instance (n : Int) : Decidable (fitsExponent n) := inferInstanceAs (Decidable (_ ∧ _))

/-- Whether a character belongs to the number in front of the suffix. -/
def isNumberChar (c : Char) : Bool := Text.isDigit c || c == '.'

/-- The digits before and after the first point. -/
def splitPoint (cs : List Char) : List Char × List Char :=
  (cs.takeWhile (· != '.'), (cs.dropWhile (· != '.')).drop 1)

/-- The mantissa of a number and how many of its digits follow the point. -/
def number? (cs : List Char) : Option (Nat × Nat) := do
  let (whole, fractional) := splitPoint cs
  let mantissa ← Text.digitsValue? (whole ++ fractional)
  if mantissa < wordBound ∧ fitsExponent fractional.length then some (mantissa, fractional.length)
  else none

/-- A number with a suffix. An exponent must keep the power of ten in its word. A letter is trusted
to do so. -/
def withSuffix? (mantissa places : Nat) : QuantitySuffix → Option Quantity
  | .decimal tens => some ⟨mantissa, -places + tens, 0⟩
  | .binary twos => some ⟨mantissa, -places, twos⟩
  | .exponent tens =>
    if fitsExponent (-places + tens) then some ⟨mantissa, -places + tens, 0⟩ else none

/-- The quantity without blanks around it and without its plus sign. -/
def body (s : String) : List Char :=
  match Text.trimEnd (Text.trimStart s.toList) with
  | '+' :: cs => cs
  | cs => cs

/-- The quantity that a text denotes. -/
def ofText? (s : String) : Option Quantity := do
  let cs := body s
  let (mantissa, places) ← number? (cs.takeWhile isNumberChar)
  withSuffix? mantissa places (← QuantitySuffix.ofChars? (cs.dropWhile isNumberChar))

/-- The quantity that a text denotes, or the complaint about it. -/
def ofText (s : String) : Except InvalidQuantity Quantity :=
  match ofText? s with
  | some q => .ok q
  | none => .error ⟨s⟩

/-- A number, if it stays in the 128-bit word. -/
def inWord? (n : Nat) : Option Nat := if n < wordBound then some n else none

/-- The power of ten of the quantity counted in units of `10 ^ -digits`, kept in its word. -/
def exponentFor (q : Quantity) (digits : Int) : Int :=
  max Text.int32Min (min Text.int32Max (q.tens + digits))

/-- A power of ten, if it stays in the 128-bit word. -/
def powerOfTen? (e : Nat) : Option Nat := if e < 39 then some (Nat.pow 10 e) else none

/-- The quantity counted in units of `10 ^ -digits` and rounded up, unless the 128-bit word is left
on the way. A divisor beyond the word leaves one unit of anything but zero. -/
def count? (q : Quantity) (digits : Int) : Option Nat := do
  let value ← inWord? (q.mantissa * Nat.pow 2 q.twos)
  let e := q.exponentFor digits
  if 0 ≤ e then inWord? (value * (← powerOfTen? e.toNat))
  else
    match powerOfTen? (-e).toNat with
    | some divisor => some ((value + divisor - 1) / divisor)
    | none => some (if value = 0 then 0 else 1)

/-- The quantity counted in units of `10 ^ -digits`, rounded up; the greatest amount if that is too
much. -/
def scaled (q : Quantity) (digits : Int) : Amount :=
  match q.count? digits with
  | some n => .ofNat n
  | none => .ofNat Amount.greatest

/-- The quantity in thousandths. -/
def millis (q : Quantity) : Amount := q.scaled 3

/-- The quantity in whole units. -/
def units (q : Quantity) : Amount := q.scaled 0

end Quantity

end SpotRebalance
