/-!
# Decimal numerals

Numerals are one or more ASCII digits, with any number of leading zeros. An unsigned numeral may
have a `+` in front of it, a signed one also a `-`. A numeral whose value does not fit the asked
range is no numeral of that range.
-/

namespace ConnectionPool.Text

/-- The character is one of `0` to `9`. -/
def isDigit (c : Char) : Bool :=
  c.isDigit

/-- The value of one or more ASCII digits. -/
def natural? (cs : List Char) : Option Nat :=
  if cs ≠ [] ∧ cs.all isDigit then some (Nat.ofDigitChars 10 cs 0) else none

/-- The value of an unsigned numeral below `bound`. -/
def unsigned? (bound : Nat) (cs : List Char) : Option Nat :=
  let digits := match cs with
    | '+' :: rest => rest
    | _ => cs
  (natural? digits).filter (· < bound)

/-- The value of a signed numeral of at least `-bound` and below `bound`. -/
def signed? (bound : Nat) (cs : List Char) : Option Int :=
  match cs with
  | '-' :: rest => ((natural? rest).filter (· ≤ bound)).map fun n => -(n : Int)
  | '+' :: rest => ((natural? rest).filter (· < bound)).map fun n => (n : Int)
  | _ => ((natural? cs).filter (· < bound)).map fun n => (n : Int)

end ConnectionPool.Text
