/-! # Decimal text of a floating-point number

A finite 64-bit floating-point number is `m · 2 ^ q`, and the real numbers that round to it form an
interval around it. The digits are found in 64-bit arithmetic. A **scaled** interval is the interval
times a power of ten, all rounded to 64 bits, and one unit smaller at either end for the rounding.
Its upper end is cut off at coarser and finer grids of powers of ten; the coarsest grid on which it
stays within the interval wins, and the grid point is then lowered as long as that brings it nearer
to the number. The text reads back as the number, and nearly always no shorter one does; past eight
digits after the point of the scaled number the grid point is left where it is. -/

namespace SpotRebalance.Text

/-- The number `significand · 2 ^ exponent`. -/
structure BinaryNumber where
  /-- The significand. -/
  significand : Nat
  /-- The exponent. -/
  exponent : Int
  deriving DecidableEq

namespace BinaryNumber

/-- How many significands have at most 64 bits: `2 ^ 64`. -/
def significands : Nat := 18446744073709551616

/-- A quotient, a half rounded up. -/
def roundedQuotient (n d : Nat) : Nat := (2 * n + d) / (2 * d)

/-- The same number with a significand of 64 bits. -/
def normalized (x : BinaryNumber) : BinaryNumber :=
  let shift := 63 - Nat.log2 x.significand
  ⟨x.significand * Nat.pow 2 shift, x.exponent - shift⟩

/-- The product, rounded to the upper 64 bits of the product of the significands. -/
def product (x y : BinaryNumber) : BinaryNumber :=
  ⟨roundedQuotient (x.significand * y.significand) significands, x.exponent + y.exponent + 64⟩

/-- The quotient `n / d`, rounded to a significand of 64 bits. -/
def ofQuotient (n d : Nat) : BinaryNumber :=
  let size : Int := (Nat.log2 n : Int) - Nat.log2 d
  let isBelow := n * Nat.pow 2 (-size).toNat < d * Nat.pow 2 size.toNat
  let exponent := if isBelow then size - 64 else size - 63
  ⟨roundedQuotient (n * Nat.pow 2 (-exponent).toNat) (d * Nat.pow 2 exponent.toNat), exponent⟩

/-- A power of ten, rounded to a significand of 64 bits. -/
def tenPower (power : Int) : BinaryNumber :=
  ofQuotient (Nat.pow 10 power.toNat) (Nat.pow 10 (-power).toNat)

/-- How many floating-point numbers share an exponent: `2 ^ 52`. -/
def fractions : Nat := 4503599627370496

/-- How many exponents there are: `2 ^ 11`. -/
def exponents : Nat := 2048

/-- The value of a finite floating-point number that is not negative. -/
def ofFloat (x : Float) : BinaryNumber :=
  let bits := x.toBits.toNat
  let exponent : Nat := bits / fractions % exponents
  let fraction := bits % fractions
  if exponent = 0 then ⟨fraction, -1074⟩ else ⟨fractions + fraction, exponent - 1075⟩

end BinaryNumber

/-- An interval around a number, all in units of `2 ^ -places`, times a power of ten. -/
structure ScaledInterval where
  /-- The upper end. -/
  high : Nat
  /-- How far the lower end is below the upper. -/
  width : Nat
  /-- How far the number is below the upper end. -/
  depth : Nat
  /-- The places of the unit after the binary point. -/
  places : Nat
  /-- The power of ten that was divided out. -/
  power : Int

/-- A point of a decimal grid: so many steps of a power of ten. -/
structure GridPoint where
  /-- The steps. -/
  count : Nat
  /-- The power of ten. -/
  power : Int
  deriving DecidableEq

namespace ScaledInterval

/-- The power of ten, one of every eighth, that brings a number with a significand of 64 bits and
this exponent to between two and nine digits before the point. -/
def scalingPower (exponent : Int) : Int :=
  let least := 347 - (61 + exponent) * 30102999566398114 / 100000000000000000
  (least / 8 + 1) * 8 - 348

/-- The interval of reals that round to a positive number. Below a power of two the neighbour is
half as far away. -/
def ofBinary (x : BinaryNumber) : ScaledInterval :=
  let m := x.significand
  let upper := BinaryNumber.normalized ⟨2 * m + 1, x.exponent - 1⟩
  let lower : BinaryNumber :=
    if m = BinaryNumber.fractions then ⟨4 * m - 1, x.exponent - 2⟩ else ⟨2 * m - 1, x.exponent - 1⟩
  let aligned : BinaryNumber :=
    ⟨lower.significand * Nat.pow 2 (lower.exponent - upper.exponent).toNat, upper.exponent⟩
  let power := scalingPower upper.exponent
  let scale := BinaryNumber.tenPower power
  let high := (upper.product scale).significand - 1
  { high
    width := high - ((aligned.product scale).significand + 1)
    depth := high - (x.normalized.product scale).significand
    places := (-(upper.product scale).exponent).toNat
    power := -power }

/-- The digits after the point down to which a grid point is lowered. -/
def lastLowered : Nat := 8

/-- Lowers a grid point as long as that brings it nearer to the number, at most a number of times.
It lies `rest` below the upper end, the number `depth`, and the lower end `width`. -/
def lower (width depth step : Nat) : Nat → Nat → Nat → Nat
  | 0, _, count => count
  | tries + 1, rest, count =>
    let next := rest + step
    if rest < depth ∧ next ≤ width ∧ (next < depth ∨ next - depth < depth - rest) then
      lower width depth step tries next (count - 1)
    else count

/-- The grid point of a power of ten before the point, if the upper end cut off there stays within
the interval. -/
def wholePoint? (i : ScaledInterval) (power : Nat) : Option GridPoint :=
  let step := Nat.pow 10 power * Nat.pow 2 i.places
  let rest := i.high % step
  if rest ≤ i.width then some ⟨lower i.width i.depth step 10 rest (i.high / step), i.power + power⟩
  else none

/-- The grid point of a number of digits after the point, if the upper end cut off there stays
within the interval. -/
def fractionPoint? (i : ScaledInterval) (digits : Nat) : Option GridPoint :=
  let scale := Nat.pow 10 digits
  let step := Nat.pow 2 i.places
  let rest := i.high * scale % step
  let depth := if digits ≤ lastLowered then i.depth * scale else 0
  if rest < i.width * scale then
    some ⟨lower (i.width * scale) depth step 10 rest (i.high * scale / step), i.power - digits⟩
  else none

/-- The grid point on the coarsest grid on which there is one. -/
def point? (i : ScaledInterval) : Option GridPoint :=
  ((List.range 10).reverse.findSome? i.wholePoint?).or
    ((List.range 20).findSome? fun k => i.fractionPoint? (k + 1))

end ScaledInterval

namespace GridPoint

/-- A number of zeros. -/
def zeros (n : Nat) : String := String.ofList (List.replicate n '0')

/-- The grid point as text, with at least one digit after the point. Numbers that need more than 21
digits before the point or five zeros after it are written with an exponent. -/
def text (p : GridPoint) : String :=
  let digits := (toString p.count).toList
  let before : Int := digits.length + p.power
  if 0 ≤ p.power ∧ before ≤ 21 then String.ofList digits ++ zeros p.power.toNat ++ ".0"
  else if 0 < before ∧ before ≤ 21 then
    String.ofList (digits.take before.toNat) ++ "." ++ String.ofList (digits.drop before.toNat)
  else if -6 < before ∧ before ≤ 0 then "0." ++ zeros (-before).toNat ++ String.ofList digits
  else
    let rest := digits.drop 1
    String.ofList (digits.take 1) ++
      (if rest.isEmpty then "" else "." ++ String.ofList rest) ++ "e" ++
      toString (before - 1)

end GridPoint

/-- The text of a finite floating-point number that is not negative. -/
def floatText (x : Float) : String :=
  let value := BinaryNumber.ofFloat x
  if value.significand = 0 then "0.0"
  else ((ScaledInterval.ofBinary value).point?.map (·.text)).getD ""

end SpotRebalance.Text
