/-! # Decimal integers

Reading a whole number from ASCII digits, with or without a sign, within bounds; and the digits of a
fraction of fixed width without its trailing zeros.

`digitsValue?` reads any number of digits exactly; `signedWithin?` refuses what lies outside its
bounds. -/

namespace SpotRebalance.Text

/-- The value of an ASCII digit. -/
def digitValue? (c : Char) : Option Nat :=
  if '0' ≤ c ∧ c ≤ '9' then some (c.toNat - '0'.toNat) else none

/-- Whether a character is an ASCII digit. -/
def isDigit (c : Char) : Bool := (digitValue? c).isSome

/-- The number that digits continue, read from the left: `start` followed by the digits. -/
def digitsFrom? (start : Nat) : List Char → Option Nat
  | [] => some start
  | c :: cs => do digitsFrom? (start * 10 + (← digitValue? c)) cs

/-- The number written by one or more digits. -/
def digitsValue? : List Char → Option Nat
  | [] => none
  | cs => digitsFrom? 0 cs

/-- The integer written by an optional sign and one or more digits, if it lies between `low` and
`high`. -/
def signedWithin? (low high : Int) (cs : List Char) : Option Int := do
  let value ← match cs with
    | '-' :: rest => (digitsValue? rest).map fun n => -(n : Int)
    | '+' :: rest => (digitsValue? rest).map fun n => (n : Int)
    | rest => (digitsValue? rest).map fun n => (n : Int)
  if low ≤ value ∧ value ≤ high then some value else none

/-- The least signed 64-bit integer. -/
def int64Min : Int := -9223372036854775808

/-- The greatest signed 64-bit integer. -/
def int64Max : Int := 9223372036854775807

/-- The least signed 32-bit integer. -/
def int32Min : Int := -2147483648

/-- The greatest signed 32-bit integer. -/
def int32Max : Int := 2147483647

/-- The digits of `n`, with zeros in front up to the width. -/
def padded (width n : Nat) : String :=
  let digits := toString n
  String.ofList (List.replicate (width - digits.length) '0') ++ digits

/-- The fraction `n / 10 ^ width` as a point and digits without trailing zeros; nothing for zero. -/
def fraction (width n : Nat) : String :=
  if n = 0 then ""
  else "." ++ String.ofList (((padded width n).toList.reverse.dropWhile (· == '0')).reverse)

end SpotRebalance.Text
