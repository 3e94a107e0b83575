import SpotRebalance.Instant.Rfc3339
import SpotRebalance.Text.Blank

/-! # Instants in relaxed notation

Manifests write instants in the format of RFC 3339, but not always to the letter. Here blanks may
stand before every number and every mark, a number may have fewer digits, a year with a sign more of
them, `UTC` in any case stands for no offset, and colons and blanks between the hours and minutes of
an offset do not matter. The instant must lie on the calendar, and so must its local date. -/

namespace SpotRebalance.Instant

open Text

/-- The first year of the calendar. -/
def firstYear : Int := -262143

/-- The last year of the calendar. -/
def lastYear : Int := 262142

/-- The first second of the calendar. -/
def firstSecond : Int := Date.toDays ⟨firstYear, 1, 1⟩ * 86400

/-- Reads one digit or more, and no more than a number of them, after blanks. -/
def readNumber? (most : Nat) (cs : List Char) : Option (Nat × List Char) := do
  let cs := trimStart cs
  let digits := (cs.takeWhile isDigit).take most
  return (← digitsValue? digits, cs.drop digits.length)

/-- Reads a year: with a sign as many digits as there are, without one at most four. -/
def readYear? (cs : List Char) : Option (Int × List Char) :=
  match trimStart cs with
  | '-' :: rest => if (rest.head?.any isDigit) then
      (readNumber? rest.length rest).map fun r => (-(r.1 : Int), r.2) else none
  | '+' :: rest => if (rest.head?.any isDigit) then
      (readNumber? rest.length rest).map fun r => ((r.1 : Int), r.2) else none
  | rest => (readNumber? 4 rest).map fun r => ((r.1 : Int), r.2)

/-- Reads a number of at most two digits after a mark. -/
def readMarked? (mark : Char) (cs : List Char) : Option (Nat × List Char) := do
  readNumber? 2 (← readChar? mark (trimStart cs))

/-- Reads a date. -/
def readRelaxedDate? (cs : List Char) : Option (Date × List Char) := do
  let (year, cs) ← readYear? cs
  let (month, cs) ← readMarked? '-' cs
  let (day, cs) ← readMarked? '-' cs
  if firstYear ≤ year ∧ year ≤ lastYear then return (← Date.ofNumbers? year month day, cs) else none

/-- Reads a time of day. -/
def readRelaxedTime? (cs : List Char) : Option (TimeOfDay × List Char) := do
  let (hour, cs) ← readNumber? 2 cs
  let (minute, cs) ← readMarked? ':' cs
  let (sec, cs) ← readMarked? ':' cs
  let (fraction, cs) ← readFraction? cs
  return (⟨hour, minute, sec, fraction⟩, cs)

/-- What is left after colons and blanks. -/
def skipColons (cs : List Char) : List Char := cs.dropWhile fun c => c == ':' || isBlank c

/-- Reads an offset from UTC. -/
def readRelaxedOffset? (cs : List Char) : Option (Int × List Char) :=
  let cs := trimStart cs
  if String.ofList ((cs.take 3).map Char.toUpper) = "UTC" then some (0, cs.drop 3)
  else readOffset? (fun rest => some (skipColons rest)) cs

/-- Whether it lies on the calendar. -/
def isOnCalendar (t : Instant) : Bool := firstSecond ≤ t.seconds && t.seconds ≤ latest.seconds

/-- Reads a whole text as an instant. -/
def ofRelaxedText? (s : String) : Option Instant := do
  let (date, cs) ← readRelaxedDate? s.toList
  let (time, cs) ← readRelaxedTime? (← readMark? cs)
  let (offset, cs) ← readRelaxedOffset? cs
  if (trimStart cs).isEmpty then (ofCivil? date time offset).filter isOnCalendar else none

end SpotRebalance.Instant
