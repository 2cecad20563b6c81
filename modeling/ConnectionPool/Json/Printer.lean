import ConnectionPool.Json.Basic
import ConnectionPool.Json.Binary64

/-!
# Writing JSON text

The text has no blanks. In a string a quote and a backslash have a backslash in front and a
control character is written by its number; every other character stands for itself.
-/

namespace ConnectionPool.Json

/-- What stands for the character inside a JSON string. -/
def escape (c : Char) : String :=
  if c = '"' then "\\\""
  else if c = '\\' then "\\\\"
  else if c.toNat < 0x20 then
    "\\u00" ++ (if c.toNat < 0x10 then "0" else "") ++ String.ofList (Nat.toDigits 16 c.toNat)
  else c.toString

/-- The string between quotes. -/
def renderString (s : String) : String :=
  s.foldl (fun text c => text ++ escape c) "\"" ++ "\""

/-- The number's text: digits for an integer, an exact decimal for a float. -/
def renderNumber : Number → String
  | .integer value => toString value
  | .float bits => Binary64.decimalText bits

mutual

/-- The text of the value. -/
def render : Json → String
  | .null => "null"
  | .bool true => "true"
  | .bool false => "false"
  | .number value => renderNumber value
  | .string value => renderString value
  | .array items => "[" ++ renderItems items ++ "]"
  | .object members => "\x7b" ++ renderMembers members ++ "\x7d"

/-- The items with commas between them. -/
def renderItems : List Json → String
  | [] => ""
  | [item] => render item
  | item :: rest => render item ++ "," ++ renderItems rest

/-- The members with commas between them. -/
def renderMembers : List (String × Json) → String
  | [] => ""
  | [(name, value)] => renderString name ++ ":" ++ render value
  | (name, value) :: rest =>
      renderString name ++ ":" ++ render value ++ "," ++ renderMembers rest

end

end ConnectionPool.Json
