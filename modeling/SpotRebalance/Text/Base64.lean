/-! # Base64 text

Four characters write three bytes. The last four may end in one or two equals signs, for two bytes
or one, and then the bits that no byte needs are zero. -/

namespace SpotRebalance.Text.Base64

/-- The value of a character. -/
def digit? (c : Char) : Option Nat :=
  if 'A' ≤ c ∧ c ≤ 'Z' then some (c.toNat - 'A'.toNat)
  else if 'a' ≤ c ∧ c ≤ 'z' then some (c.toNat - 'a'.toNat + 26)
  else if '0' ≤ c ∧ c ≤ '9' then some (c.toNat - '0'.toNat + 52)
  else if c = '+' then some 62
  else if c = '/' then some 63
  else none

/-- The bytes of three digits and the last one of four, or of two digits. -/
def last? (a b c d : Char) : Option (List Nat) := do
  let a ← digit? a
  let b ← digit? b
  if d ≠ '=' then
    let c ← digit? c
    let d ← digit? d
    return [a * 4 + b / 16, b % 16 * 16 + c / 4, c % 4 * 64 + d]
  else if c ≠ '=' then
    let c ← digit? c
    if c % 4 = 0 then return [a * 4 + b / 16, b % 16 * 16 + c / 4] else none
  else if b % 16 = 0 then return [a * 4 + b / 16]
  else none

/-- The bytes that a text writes. -/
def decode? : List Char → Option (List Nat)
  | [] => some []
  | [a, b, c, d] => last? a b c d
  | a :: b :: c :: d :: rest => do
    if c = '=' ∨ d = '=' then none
    return (← last? a b c d) ++ (← decode? rest)
  | _ => none

end SpotRebalance.Text.Base64
