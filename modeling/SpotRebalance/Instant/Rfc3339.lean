import SpotRebalance.Calendar
import SpotRebalance.Instant

/-! # Instants as text

The date and time format of RFC 3339. Reading takes any offset from UTC, `T`, `t` or a blank between
date and time, `Z` or `z` for no offset, and a fraction of any length, of which the first nine
digits count. Writing uses UTC, no fraction when there is none and else three, six or nine digits,
the least that are exact; years outside 0 to 9999 carry a sign. -/

namespace SpotRebalance.Instant

open Text

/-- Reads exactly `count` digits. -/
def readDigits? (count : Nat) (cs : List Char) : Option (Nat × List Char) := do
  let digits := cs.take count
  if digits.length < count then none
  else return (← digitsValue? digits, cs.drop count)

/-- Reads one given character. -/
def readChar? (expected : Char) : List Char → Option (List Char)
  | [] => none
  | c :: rest => if c = expected then some rest else none

/-- Reads `YYYY-MM-DD`. -/
def readDate? (cs : List Char) : Option (Date × List Char) := do
  let (year, cs) ← readDigits? 4 cs
  let (month, cs) ← readDigits? 2 (← readChar? '-' cs)
  let (day, cs) ← readDigits? 2 (← readChar? '-' cs)
  return (← Date.ofNumbers? year month day, cs)

/-- A time of day as it is written. -/
structure TimeOfDay where
  /-- The hour. -/
  hour : Nat
  /-- The minute. -/
  minute : Nat
  /-- The second; 60 is the leap second after second 59. -/
  sec : Nat
  /-- The nanoseconds beyond the second. -/
  fraction : Nat

/-- The instant at a date and a time of day, some minutes ahead of UTC. -/
def ofCivil? (date : Date) (time : TimeOfDay) (offset : Int) : Option Instant :=
  if time.hour < 24 ∧ time.minute < 60 ∧ time.sec ≤ 60 then
    let clock := time.hour * 3600 + time.minute * 60 + min time.sec 59
    some ⟨date.toDays * 86400 + clock - offset * 60,
      time.fraction + if time.sec = 60 then Duration.second else 0⟩
  else none

/-- Reads an optional fraction as nanoseconds. -/
def readFraction? : List Char → Option (Nat × List Char)
  | '.' :: cs => do
    let digits := cs.takeWhile isDigit
    let value ← digitsValue? (digits.take 9)
    return (value * Nat.pow 10 (9 - digits.length), cs.dropWhile isDigit)
  | cs => some (0, cs)

/-- Reads `hh:mm:ss` with an optional fraction. -/
def readTime? (cs : List Char) : Option (TimeOfDay × List Char) := do
  let (hour, cs) ← readDigits? 2 cs
  let (minute, cs) ← readDigits? 2 (← readChar? ':' cs)
  let (sec, cs) ← readDigits? 2 (← readChar? ':' cs)
  let (fraction, cs) ← readFraction? cs
  return (⟨hour, minute, sec, fraction⟩, cs)

/-- Reads the offset from UTC in minutes: `Z`, or a sign, hours, what parts them from minutes, and
minutes. -/
def readOffset? (readParting : List Char → Option (List Char)) :
    List Char → Option (Int × List Char)
  | [] => none
  | c :: cs =>
    if c = 'Z' ∨ c = 'z' then some (0, cs)
    else if c = '+' ∨ c = '-' ∨ c = '\u2212' then do
      let (hours, cs) ← readDigits? 2 cs
      let (minutes, cs) ← readDigits? 2 (← readParting cs)
      if hours < 24 ∧ minutes < 60 then
        let offset : Int := hours * 60 + minutes
        return (if c = '+' then offset else -offset, cs)
      else none
    else none

/-- Reads the mark between date and time. -/
def readMark? : List Char → Option (List Char)
  | 'T' :: rest | 't' :: rest | ' ' :: rest => some rest
  | _ => none

/-- Reads a whole text as an instant. -/
def ofText? (s : String) : Option Instant := do
  let (date, cs) ← readDate? s.toList
  let (time, cs) ← readTime? (← readMark? cs)
  let (offset, cs) ← readOffset? (readChar? ':') cs
  if cs.isEmpty then ofCivil? date time offset else none

/-- The year: four digits, and a sign outside 0 to 9999. -/
def yearText (year : Int) : String :=
  if 0 ≤ year ∧ year ≤ 9999 then padded 4 year.toNat
  else (if year < 0 then "-" else "+") ++ padded 4 year.natAbs

/-- The fraction of a second in three, six or nine digits, the least that are exact. -/
def fractionText (nanos : Nat) : String :=
  if nanos = 0 then ""
  else if nanos % Duration.millisecond = 0 then "." ++ padded 3 (nanos / Duration.millisecond)
  else if nanos % Duration.microsecond = 0 then "." ++ padded 6 (nanos / Duration.microsecond)
  else "." ++ padded 9 nanos

/-- The instant in UTC. -/
def text (t : Instant) : String :=
  let date := Date.ofDays (t.seconds / 86400)
  let clock := (t.seconds % 86400).toNat
  let sec := clock % 60 + if t.isLeap then 1 else 0
  yearText date.year ++ "-" ++ padded 2 date.month ++ "-" ++ padded 2 date.day ++ "T" ++
    padded 2 (clock / 3600) ++ ":" ++ padded 2 (clock / 60 % 60) ++ ":" ++ padded 2 sec ++
    fractionText (t.nanos % Duration.second) ++ "Z"

end SpotRebalance.Instant
