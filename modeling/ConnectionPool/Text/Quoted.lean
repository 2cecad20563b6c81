import ConnectionPool.Text.SpelledOut

/-!
# Quoted texts

A text between double quotes, for diagnostic output: a quote and a backslash have a backslash in
front, five control characters have a short escape, and a character without a mark of its own is
written by its number in hexadecimal.
-/

namespace ConnectionPool.Text

/-- The number in lower-case hexadecimal, without leading zeros. -/
def hexadecimal (n : Nat) : String :=
  String.ofList (Nat.toDigits 16 n)

/-- What stands for the character inside the quotes. -/
def escapeChar (c : Char) : String :=
  if c = '\x00' then "\\0"
  else if c = '\t' then "\\t"
  else if c = '\r' then "\\r"
  else if c = '\n' then "\\n"
  else if c = '\\' then "\\\\"
  else if c = '"' then "\\\""
  else if isSpelledOut c then "\\u\x7b" ++ hexadecimal c.toNat ++ "\x7d"
  else c.toString

/-- The text between double quotes. -/
def quoted (s : String) : String :=
  "\"" ++ String.join (s.toList.map escapeChar) ++ "\""

end ConnectionPool.Text
