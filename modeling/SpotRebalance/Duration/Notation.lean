import SpotRebalance.Duration
import SpotRebalance.Text.Blank

/-! # Written durations

People write a duration as numbers with units: `1h 30m`, `1.5h`, `100ms`. Blanks may stand anywhere,
even within a number. A number may have a fraction if it comes to a whole number of the **steps** of
its unit: nanoseconds up to minutes, seconds from hours on. Nanoseconds themselves have no fraction,
not even a zero. A lone `0` needs no unit. Every intermediate count must fit a 64-bit word. -/

namespace SpotRebalance.Duration

/-- The first count that does not fit a 64-bit word. -/
def wordBound : Nat := 18446744073709551616

/-- A unit of time. -/
structure TimeUnit where
  /-- What one of it is worth, in whole counts. -/
  size : Nat
  /-- What a whole count is worth, in nanoseconds: one, or a second. -/
  count : Nat
  /-- How many steps of a fraction make one unit. -/
  steps : Nat
  /-- What a step is worth, in nanoseconds. -/
  step : Nat
  deriving DecidableEq

namespace TimeUnit

/-- A unit below a second, worth a number of nanoseconds. -/
def small (nanos : Nat) : TimeUnit := ⟨nanos, 1, nanos, 1⟩

/-- A unit from a second to a minute, whose fractions are counted in nanoseconds. -/
def middle (seconds : Nat) : TimeUnit := ⟨seconds, second, seconds * second, 1⟩

/-- A unit from an hour on, whose fractions are counted in seconds. -/
def large (seconds : Nat) : TimeUnit := ⟨seconds, second, seconds, second⟩

/-- The names of all units. -/
def named : List (List String × TimeUnit) :=
  [(["nanos", "nsec", "ns"], small 1), (["usec", "us", "µs"], small microsecond),
    (["millis", "msec", "ms"], small millisecond),
    (["seconds", "second", "secs", "sec", "s"], middle 1),
    (["minutes", "minute", "min", "mins", "m"], middle 60),
    (["hours", "hour", "hr", "hrs", "h"], large 3600), (["days", "day", "d"], large 86400),
    (["weeks", "week", "wk", "wks", "w"], large 604800),
    (["months", "month", "M"], large 2630016),
    (["years", "year", "yr", "yrs", "y"], large 31557600)]

/-- The unit of a name. -/
def ofName? (name : String) : Option TimeUnit := (named.find? fun e => e.1.contains name).map (·.2)

end TimeUnit

/-- A count that fits a 64-bit word. -/
def inWord? (n : Nat) : Option Nat := if n < wordBound then some n else none

/-- The number that digits continue, as long as it fits a 64-bit word. -/
def wordFrom? (start : Nat) : List Char → Option Nat
  | [] => some start
  | c :: cs => do wordFrom? (← inWord? (start * 10 + (← Text.digitValue? c))) cs

/-- A number with a unit. -/
structure Term where
  /-- The whole part. -/
  whole : Nat
  /-- The digits of the fraction, if there is one. -/
  fraction : Option (List Char)
  /-- The unit. -/
  unit : TimeUnit

/-- Adds counts worth `count` nanoseconds each; the nanoseconds beyond whole seconds and the seconds
must each fit a 64-bit word. -/
def addCounts? (d : Duration) (count n : Nat) : Option Duration := do
  if count = 1 then let _ ← inWord? (d.subsecond + n)
  d.add? ⟨n * count⟩

/-- Adds the fraction of a term, if it comes to a whole number of steps. -/
def addFraction? (d : Duration) (unit : TimeUnit) (digits : List Char) : Option Duration := do
  if unit.steps = 1 then none
  let numerator ← wordFrom? 0 digits
  let denominator ← inWord? (Nat.pow 10 digits.length)
  let steps ← inWord? (numerator * unit.steps)
  if digits.isEmpty ∨ steps % denominator ≠ 0 then none
  else addCounts? d unit.step (steps / denominator)

/-- Adds a term. -/
def addTerm? (d : Duration) (t : Term) : Option Duration := do
  let sum ← addCounts? d t.unit.count (← inWord? (t.whole * t.unit.size))
  match t.fraction with
  | none => some sum
  | some digits => addFraction? sum t.unit digits

/-- Whether a character belongs to the name of a unit. -/
def isUnitChar (c : Char) : Bool := c.isAlpha || c == 'µ'

/-- Whether a character is a digit or a blank between digits. -/
def isNumberChar (c : Char) : Bool := Text.isDigit c || Text.isBlank c

/-- The digits among the digits and blanks in front, and what follows. -/
def spanDigits (cs : List Char) : List Char × List Char :=
  ((cs.takeWhile isNumberChar).filter Text.isDigit, cs.dropWhile isNumberChar)

/-- Reads the fraction after a number, if there is one. -/
def readFraction (cs : List Char) : Option (List Char) × List Char :=
  match cs with
  | '.' :: rest => (some (spanDigits rest).1, (spanDigits rest).2)
  | rest => (none, rest)

/-- Reads one term. A unit ends before a blank, a digit, or the end. -/
def readTerm? (cs : List Char) : Option (Term × List Char) := do
  let (digits, cs) := spanDigits cs
  if digits.isEmpty then none
  let whole ← wordFrom? 0 digits
  let (fraction, cs) := readFraction cs
  let unit ← TimeUnit.ofName? (String.ofList (cs.takeWhile isUnitChar))
  let rest := cs.dropWhile isUnitChar
  if (rest.head?.all isNumberChar) then return (⟨whole, fraction, unit⟩, Text.trimStart rest)
  else none

/-- Reads terms until the end, at most a number of them, and adds them up. -/
def readTerms? : Nat → Duration → List Char → Option Duration
  | 0, _, _ => none
  | fuel + 1, sum, cs => do
    let (term, rest) ← readTerm? cs
    let sum ← addTerm? sum term
    if rest.isEmpty then some sum else readTerms? fuel sum rest

/-- The duration that a text writes. -/
def ofText? (s : String) : Option Duration :=
  if s = "0" then some ⟨0⟩ else readTerms? s.length ⟨0⟩ s.toList

end SpotRebalance.Duration
