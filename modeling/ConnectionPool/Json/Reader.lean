import ConnectionPool.Json.Basic
import ConnectionPool.Json.Binary64
import ConnectionPool.Text.Numeral

/-!
# Reading JSON text

Reading has two stages. The first finds the structure of the text: it checks the grammar and
leaves numbers as digits and strings as marks. The second gives the values: it refuses a half of
a surrogate pair that stands alone, a float beyond binary64 and nesting of more than 127 levels.
A reader that ignores a part of the text stops after the first stage for that part.
-/

namespace ConnectionPool.Json

/-- The digits of a number as they are written. -/
structure Numeral where
  negative : Bool
  whole : List Char
  fraction : List Char
  exponent : Option (Bool × List Char)
  deriving Repr

/-- One mark inside a string: a character, or a UTF-16 unit written as `\u` and four digits. -/
inductive Mark where
  | char (c : Char)
  | unit (value : Nat)
  deriving Repr

/-- The structure of a JSON text. -/
inductive Written where
  | null
  | bool (value : Bool)
  | number (numeral : Numeral)
  | string (marks : List Mark)
  | array (items : List Written)
  | object (members : List (List Mark × Written))
  deriving Inhabited

namespace Reader

/-- The text without the blanks it starts with: space, line feed, tab and carriage return. -/
def skipBlanks (cs : List Char) : List Char :=
  cs.dropWhile fun c => c = ' ' || c = '\n' || c = '\t' || c = '\r'

/-- The leading digits and the rest; `none` if there is no digit. -/
def digits? (cs : List Char) : Option (List Char × List Char) :=
  match cs.takeWhile Text.isDigit with
  | [] => none
  | digits => some (digits, cs.dropWhile Text.isDigit)

/-- The exponent part, if one follows: `e`, an optional sign and digits. -/
def exponent? : List Char → Option (Option (Bool × List Char) × List Char)
  | c :: rest =>
      if c = 'e' || c = 'E' then
        let (negative, rest) := match rest with
          | '+' :: rest => (false, rest)
          | '-' :: rest => (true, rest)
          | _ => (false, rest)
        (digits? rest).map fun (digits, rest) => (some (negative, digits), rest)
      else some (none, c :: rest)
  | [] => some (none, [])

/-- A number. A leading zero stands alone before the point. -/
def numeral? (cs : List Char) : Option (Numeral × List Char) := do
  let (negative, cs) := match cs with
    | '-' :: rest => (true, rest)
    | _ => (false, cs)
  let (whole, cs) ← digits? cs
  if whole.head? = some '0' ∧ whole.length ≠ 1 then none
  else
    let (fraction, cs) ← match cs with
      | '.' :: rest => digits? rest
      | _ => some ([], cs)
    let (exponent, cs) ← exponent? cs
    some (⟨negative, whole, fraction, exponent⟩, cs)

/-- The value of a hexadecimal digit in either case. -/
def hexDigit? (c : Char) : Option Nat :=
  if c.isDigit then some (c.toNat - 48)
  else if 'a' ≤ c ∧ c ≤ 'f' then some (c.toNat - 87)
  else if 'A' ≤ c ∧ c ≤ 'F' then some (c.toNat - 55)
  else none

/-- The value of four hexadecimal digits. -/
def unit? (a b c d : Char) : Option Nat := do
  let a ← hexDigit? a
  let b ← hexDigit? b
  let c ← hexDigit? c
  let d ← hexDigit? d
  some (4096 * a + 256 * b + 16 * c + d)

/-- The character that a short escape stands for. -/
def shortEscape? (c : Char) : Option Char :=
  if c = '"' || c = '\\' || c = '/' then some c
  else if c = 'b' then some '\x08'
  else if c = 'f' then some '\x0c'
  else if c = 'n' then some '\n'
  else if c = 'r' then some '\r'
  else if c = 't' then some '\t'
  else none

/-- The marks of a string up to its closing quote. Control characters are refused. -/
def marks? : List Char → Option (List Mark × List Char)
  | [] => none
  | '"' :: rest => some ([], rest)
  | '\\' :: 'u' :: a :: b :: c :: d :: rest => do
      let value ← unit? a b c d
      let (marks, rest) ← marks? rest
      some (.unit value :: marks, rest)
  | '\\' :: c :: rest => do
      let c ← shortEscape? c
      let (marks, rest) ← marks? rest
      some (.char c :: marks, rest)
  | c :: rest =>
      if c.toNat < 0x20 || c = '\\' then none
      else (marks? rest).map fun (marks, rest) => (.char c :: marks, rest)

mutual

/-- A value, with blanks before it. The fuel bounds the number of nested calls. -/
def value? : Nat → List Char → Option (Written × List Char)
  | 0, _ => none
  | fuel + 1, cs =>
      match skipBlanks cs with
      | 'n' :: 'u' :: 'l' :: 'l' :: rest => some (.null, rest)
      | 't' :: 'r' :: 'u' :: 'e' :: rest => some (.bool true, rest)
      | 'f' :: 'a' :: 'l' :: 's' :: 'e' :: rest => some (.bool false, rest)
      | '"' :: rest => (marks? rest).map fun (marks, rest) => (.string marks, rest)
      | '[' :: rest =>
          match skipBlanks rest with
          | ']' :: rest => some (.array [], rest)
          | _ => (items? fuel rest).map fun (items, rest) => (.array items, rest)
      | '{' :: rest =>
          match skipBlanks rest with
          | '}' :: rest => some (.object [], rest)
          | _ => (members? fuel rest).map fun (members, rest) => (.object members, rest)
      | cs => (numeral? cs).map fun (numeral, rest) => (.number numeral, rest)

/-- One or more items up to the closing bracket. -/
def items? : Nat → List Char → Option (List Written × List Char)
  | 0, _ => none
  | fuel + 1, cs => do
      let (item, cs) ← value? fuel cs
      match skipBlanks cs with
      | ']' :: rest => some ([item], rest)
      | ',' :: rest =>
          let (items, rest) ← items? fuel rest
          some (item :: items, rest)
      | _ => none

/-- One or more members up to the closing brace. -/
def members? : Nat → List Char → Option (List (List Mark × Written) × List Char)
  | 0, _ => none
  | fuel + 1, cs => do
      match skipBlanks cs with
      | '"' :: rest =>
          let (name, rest) ← marks? rest
          match skipBlanks rest with
          | ':' :: rest =>
              let (value, rest) ← value? fuel rest
              match skipBlanks rest with
              | '}' :: rest => some ([(name, value)], rest)
              | ',' :: rest =>
                  let (members, rest) ← members? fuel rest
                  some ((name, value) :: members, rest)
              | _ => none
          | _ => none
      | _ => none

end

/-- The structure of a whole text: one value with blanks around it. Each call of the reader takes
at least one character or is the first of two at its place, so the fuel never runs out. -/
def written? (s : String) : Option Written := do
  let cs := s.toList
  let (written, rest) ← value? (2 * cs.length + 2) cs
  if skipBlanks rest = [] then some written else none

end Reader

/-- The text of a string's marks. A surrogate pair stands for one character; a half that stands
alone has no meaning. -/
def textOfMarks? : List Mark → Option (List Char)
  | [] => some []
  | .char c :: rest => (textOfMarks? rest).map (c :: ·)
  | .unit high :: .unit low :: rest =>
      if 0xD800 ≤ high ∧ high ≤ 0xDBFF then
        if 0xDC00 ≤ low ∧ low ≤ 0xDFFF then
          let code := 0x10000 + 1024 * (high - 0xD800) + (low - 0xDC00)
          (textOfMarks? rest).map (Char.ofNat code :: ·)
        else none
      else if 0xDC00 ≤ high ∧ high ≤ 0xDFFF then none
      else (textOfMarks? (.unit low :: rest)).map (Char.ofNat high :: ·)
  | .unit value :: rest =>
      if 0xD800 ≤ value ∧ value ≤ 0xDFFF then none
      else (textOfMarks? rest).map (Char.ofNat value :: ·)

/-- The string of the marks. -/
def stringOfMarks? (marks : List Mark) : Option String :=
  (textOfMarks? marks).map String.ofList

/-- Take digits into the significand as long as it fits 64 bits; the rest is returned. -/
def absorb (significand : Nat) : List Char → Nat × List Char
  | [] => (significand, [])
  | c :: cs =>
      let next := 10 * significand + (c.toNat - 48)
      if next < UInt64.size then absorb next cs else (significand, c :: cs)

/-- The float that the digits stand for. Digits of the whole part that the significand has no room
for count as tens, those of the fraction are dropped. -/
def Numeral.float? (n : Numeral) : Option UInt64 :=
  let (significand, wholeRest) := absorb 0 n.whole
  let (significand, fractionRest) := absorb significand n.fraction
  let point : Int := wholeRest.length - (n.fraction.length - fractionRest.length : Nat)
  match n.exponent with
  | none => Binary64.ofDecimal? n.negative significand.toUInt64 point
  | some (negative, digits) =>
      let exponent := Nat.ofDigitChars 10 digits 0
      if exponent ≥ 0x80000000 then
        if significand ≠ 0 ∧ !negative then none
        else Binary64.ofDecimal? n.negative 0 0
      else
        let exponent : Int := if negative then -exponent else exponent
        Binary64.ofDecimal? n.negative significand.toUInt64 (point + exponent)

/-- The number that the digits stand for: an integer if it is written without point and exponent
and fits 64 bits, signed if negative; a negative zero is a float. -/
def Numeral.number? (n : Numeral) : Option Number :=
  let magnitude := Nat.ofDigitChars 10 n.whole 0
  if n.fraction = [] ∧ n.exponent = none ∧ !n.negative ∧ magnitude < UInt64.size then
    some (.integer magnitude)
  else if n.fraction = [] ∧ n.exponent = none ∧ n.negative ∧ 0 < magnitude
      ∧ magnitude ≤ 0x8000000000000000 then
    some (.integer (-magnitude))
  else n.float?.map .float

/-- Add a member. A member of that name that is there already gives way. -/
def putMember (members : List (String × Json)) (name : String) (value : Json) :
    List (String × Json) :=
  members.filter (fun entry => entry.1 ≠ name) ++ [(name, value)]

mutual

/-- The value of the written text, nested at most `depth` levels. -/
def ofWritten? (depth : Nat) : Written → Option Json
  | .null => some .null
  | .bool value => some (.bool value)
  | .number numeral => numeral.number?.map .number
  | .string marks => (stringOfMarks? marks).map .string
  | .array items => if depth = 0 then none else (ofItems? (depth - 1) items).map .array
  | .object members =>
      if depth = 0 then none else (ofMembers? (depth - 1) [] members).map .object

/-- The values of the items. -/
def ofItems? (depth : Nat) : List Written → Option (List Json)
  | [] => some []
  | item :: rest => do
      let item ← ofWritten? depth item
      let rest ← ofItems? depth rest
      some (item :: rest)

/-- The members, added to those read before; of two with one name the later one stays. -/
def ofMembers? (depth : Nat) (sofar : List (String × Json)) :
    List (List Mark × Written) → Option (List (String × Json))
  | [] => some sofar
  | (name, value) :: rest => do
      let name ← stringOfMarks? name
      let value ← ofWritten? depth value
      ofMembers? depth (putMember sofar name value) rest

end

/-- The value of a JSON text. -/
def parse? (s : String) : Option Json :=
  (Reader.written? s).bind (ofWritten? 127)

end ConnectionPool.Json
