import SpotRebalance.Text.Decimal
import SpotRebalance.Text.Quoted

/-! # Socket addresses

An IPv4 or IPv6 address with a port. An IPv6 address is written in brackets, in groups of
hexadecimal digits without leading zeros, and the longest run of two or more zero groups, the first
one of several, is left out; an address that stands for an IPv4 address is written with that one at
its end. -/

namespace SpotRebalance.Http

/-- An address and a port. -/
inductive SocketAddress where
  /-- An IPv4 address of four bytes. -/
  | v4 (bytes : List Nat) (port : Nat)
  /-- An IPv6 address of eight groups, with the number of its zone. -/
  | v6 (groups : List Nat) (zone port : Nat)
  deriving DecidableEq

namespace SocketAddress

/-- The value of a digit in a base up to sixteen. -/
def digit? (base : Nat) (c : Char) : Option Nat :=
  let n := c.toNat
  let value :=
    if '0' ≤ c ∧ c ≤ '9' then n - '0'.toNat
    else if 'a' ≤ c ∧ c ≤ 'f' then n - 'a'.toNat + 10
    else if 'A' ≤ c ∧ c ≤ 'F' then n - 'A'.toNat + 10
    else base
  if value < base then some value else none

/-- Reads a number of one or more digits up to a greatest value. -/
def number? (base most : Nat) (cs : List Char) : Option (Nat × List Char) :=
  let isDigit (c : Char) : Bool := (digit? base c).isSome
  let digits := cs.takeWhile isDigit
  let value := digits.foldl (fun n c => n * base + (digit? base c).getD 0) 0
  if digits.isEmpty ∨ most < value then none else some (value, cs.dropWhile isDigit)

/-- Reads a byte of an IPv4 address: at most three digits, without leading zeros. -/
def byte? (cs : List Char) : Option (Nat × List Char) := do
  let (value, rest) ← number? 10 255 cs
  let length := cs.length - rest.length
  if 3 < length ∨ (cs.head? = some '0' ∧ 1 < length) then none else some (value, rest)

/-- Reads one character. -/
def char? (expected : Char) : List Char → Option (List Char)
  | [] => none
  | c :: rest => if c = expected then some rest else none

/-- Reads the four bytes of an IPv4 address. -/
def bytes? (cs : List Char) : Option (List Nat × List Char) := do
  let (a, cs) ← byte? cs
  let (b, cs) ← byte? (← char? '.' cs)
  let (c, cs) ← byte? (← char? '.' cs)
  let (d, cs) ← byte? (← char? '.' cs)
  return ([a, b, c, d], cs)

/-- Reads a group of at most four hexadecimal digits. Further digits are not part of the group. -/
def group? (cs : List Char) : Option (Nat × List Char) := do
  let (value, rest) ← number? 16 65535 cs
  if 4 < cs.length - rest.length then none else some (value, rest)

/-- Reads up to `limit` groups between colons; two of them may be written as an IPv4 address, which
is then the end of the address. Tells whether it was. -/
def groups (limit : Nat) (first : Bool) (cs : List Char) : List Nat × Bool × List Char :=
  match limit with
  | 0 => ([], false, cs)
  | limit + 1 =>
    match if first then some cs else char? ':' cs with
    | none => ([], false, cs)
    | some start =>
      match if 0 < limit then bytes? start else none with
      | some ([a, b, c, d], rest) => ([a * 256 + b, c * 256 + d], true, rest)
      | _ =>
        match group? start with
        | none => ([], false, cs)
        | some (value, rest) =>
          let (others, ended, rest) := groups limit false rest
          (value :: others, ended, rest)

/-- Reads the eight groups of an IPv6 address. -/
def allGroups? (cs : List Char) : Option (List Nat × List Char) := do
  let (head, ended, cs) := groups 8 true cs
  if head.length = 8 then return (head, cs)
  else if ended then none
  else
    let cs ← char? ':' (← char? ':' cs)
    let (tail, _, cs) := groups (7 - head.length) true cs
    return (head ++ List.replicate (8 - head.length - tail.length) 0 ++ tail, cs)

/-- Reads a port to the end. -/
def port? (cs : List Char) : Option Nat := do
  let (port, rest) ← number? 10 65535 (← char? ':' cs)
  if rest.isEmpty then some port else none

/-- Reads the zone of an IPv6 address, if there is one. -/
def zone? : List Char → Option (Nat × List Char)
  | '%' :: cs => number? 10 4294967295 cs
  | cs => some (0, cs)

/-- The address that a text writes. -/
def ofText? (s : String) : Option SocketAddress :=
  match s.toList with
  | '[' :: cs => do
    let (groups, cs) ← allGroups? cs
    let (zone, cs) ← zone? cs
    return .v6 groups zone (← port? (← char? ']' cs))
  | cs => do
    let (bytes, cs) ← bytes? cs
    return .v4 bytes (← port? cs)

/-- The bytes of an IPv4 address. -/
def bytesText (bytes : List Nat) : String := String.intercalate "." (bytes.map toString)

/-- Groups with colons between them. -/
def groupsText (groups : List Nat) : String := String.intercalate ":" (groups.map Text.hex)

/-- The start and the length of the first longest run of zeros. -/
def longestRun (groups : List Nat) : Nat × Nat :=
  (List.range groups.length).foldl
    (fun best start =>
      let length := ((groups.drop start).takeWhile (· == 0)).length
      if best.2 < length then (start, length) else best)
    (0, 0)

/-- An IPv6 address as text. -/
def v6Text (groups : List Nat) : String :=
  match groups with
  | [0, 0, 0, 0, 0, 0xffff, a, b] => "::ffff:" ++ bytesText [a / 256, a % 256, b / 256, b % 256]
  | groups =>
    let (start, length) := longestRun groups
    if 1 < length then
      groupsText (groups.take start) ++ "::" ++ groupsText (groups.drop (start + length))
    else groupsText groups

/-- The address as text. -/
def text : SocketAddress → String
  | v4 bytes port => bytesText bytes ++ ":" ++ toString port
  | v6 groups zone port =>
    "[" ++ v6Text groups ++ (if zone = 0 then "" else "%" ++ toString zone) ++ "]:" ++ toString port

end SocketAddress

/-- Why the routes cannot be served. -/
inductive ServeFault where
  /-- The address cannot be listened on. -/
  | bindFailed (address : SocketAddress) (reason : String)
  /-- The server stopped. -/
  | stopped (reason : String)
  deriving DecidableEq

/-- The fault in words. -/
def ServeFault.message : ServeFault → String
  | bindFailed address reason => "failed to bind to " ++ address.text ++ ": " ++ reason
  | stopped reason => "metrics server failed: " ++ reason

end SpotRebalance.Http
