import SpotRebalance.Quantity

/-! # Quantities in machine words

Most of what is done with the words of a quantity is checked as it is done: what leaves its word is
refused, or taken for more than any amount can count. Some operations trust that their result fits
(`WordOperation`). With checked arithmetic the work **breaks off** at the first of them whose result
does not.

`readInWords` reads a quantity so, and `scaledInWords` counts it. Where the work does not break off,
they are meant to give what `ofText` and `scaled` give. -/

namespace SpotRebalance

/-- An operation on words that trusts its result to fit. -/
inductive WordOperation where
  /-- The number of places behind the point, with its sign turned. -/
  | places
  /-- The power of ten of a letter, added to the one of the number. -/
  | letter
  /-- One, moved up by the power of two. -/
  | shift
  /-- The power of ten that is divided by, which is the combined one with its sign turned. -/
  | divisor
  /-- A quotient, and one more for what is left over. -/
  | quotient
  deriving DecidableEq

namespace Quantity

/-- A result in the signed 32-bit word, unless the operation takes it out of there. -/
def inExponentWord (operation : WordOperation) (n : Int) : Except WordOperation Int :=
  if fitsExponent n then .ok n else .error operation

/-- A result in the 128-bit word, unless the operation takes it out of there. -/
def inUnsignedWord (operation : WordOperation) (n : Nat) : Except WordOperation Nat :=
  if n < wordBound then .ok n else .error operation

/-! ## Reading -/

/-- A number with a suffix. Letters trust the power of ten to stay in its word, exponents do not. -/
def withSuffixInWords (mantissa places : Nat) :
    QuantitySuffix → Except WordOperation (Option Quantity)
  | .decimal tens => do return some ⟨mantissa, ← inExponentWord .letter (-places + tens), 0⟩
  | suffix => .ok (withSuffix? mantissa places suffix)

/-- The quantity that a text denotes, or the complaint about it, unless the work breaks off. -/
def readInWords (s : String) : Except WordOperation (Except InvalidQuantity Quantity) :=
  match number? ((body s).takeWhile isNumberChar) with
  | none => .ok (.error ⟨s⟩)
  | some (mantissa, places) => do
    let _ ← inExponentWord .places (-places)
    match QuantitySuffix.ofChars? ((body s).dropWhile isNumberChar) with
    | none => return .error ⟨s⟩
    | some suffix =>
      match ← withSuffixInWords mantissa places suffix with
      | none => return .error ⟨s⟩
      | some q => return .ok q

/-! ## Counting -/

/-- One, moved up in the 128-bit word. -/
def shiftedOne (twos : Nat) : Except WordOperation Nat :=
  if twos < 128 then .ok (Nat.pow 2 twos) else .error .shift

/-- A quotient, rounded up by adding one to it if something is left over. -/
def quotientInWords (value divisor : Nat) : Except WordOperation Nat :=
  if 0 < value % divisor then inUnsignedWord .quotient (value / divisor + 1)
  else .ok (value / divisor)

/-- The quantity counted in units of `10 ^ -digits` and rounded up, unless the 128-bit word is left
on the way where that is checked, and unless the work breaks off. -/
def countInWords (q : Quantity) (digits : Int) : Except WordOperation (Option Nat) := do
  match inWord? (q.mantissa * (← shiftedOne q.twos)) with
  | none => return none
  | some value =>
    let e := q.exponentFor digits
    if 0 ≤ e then return (powerOfTen? e.toNat).bind fun power => inWord? (value * power)
    else
      match powerOfTen? (← inExponentWord .divisor (-e)).toNat with
      | some divisor => return some (← quotientInWords value divisor)
      | none => return some (if value = 0 then 0 else 1)

/-- The quantity counted in units of `10 ^ -digits`, rounded up; the greatest amount if that is too
much. -/
def scaledInWords (q : Quantity) (digits : Int) : Except WordOperation Amount := do
  match ← q.countInWords digits with
  | some n => return .ofNat n
  | none => return .ofNat Amount.greatest

end Quantity

end SpotRebalance
