import SpotRebalance.Text.Printable

/-! # Quoted text

Text between double quotes as it stands in messages. A quote and a backslash are written with a
backslash before them, tab, line feed, carriage return and NUL as `\t \n \r \0`, and any other
character that does not show by itself as its code point in braces, `\u{200b}`. -/

namespace SpotRebalance.Text

/-- The lower-case hexadecimal digits of a number, without leading zeros. -/
def hex (n : Nat) : String := String.ofList (Nat.toDigits 16 n)

/-- How one character is written between quotes. -/
def quotedChar (c : Char) : String :=
  if c = '"' then "\\\""
  else if c = '\\' then "\\\\"
  else if c = '\n' then "\\n"
  else if c = '\r' then "\\r"
  else if c = '\t' then "\\t"
  else if c = '\x00' then "\\0"
  else if isPrintable c then c.toString
  else "\\u\x7b" ++ hex c.toNat ++ "\x7d"

/-- The text between quotes, with the characters escaped that do not show by themselves. -/
def quoted (s : String) : String :=
  "\"" ++ String.join (s.toList.map quotedChar) ++ "\""

end SpotRebalance.Text
