/-!
# Letter case

Keys and messages are compared without regard to case, and what they are compared with is ASCII
text. So the lower case of a character is given here only where it is an ASCII letter: the capital
letters `A` to `Z`, and the Kelvin sign, whose lower case is `k`. No other character has an ASCII
lower case, and each keeps its own here, which is never ASCII.
-/

namespace ConnectionPool.Text

/-- The lower case of the character, as far as it is an ASCII letter. -/
def lower (c : Char) : Char :=
  if c.toNat = 0x212A then 'k' else c.toLower

/-- The text in lower case, as far as ASCII text can tell. -/
def lowercase (cs : List Char) : List Char :=
  cs.map lower

/-- The texts agree up to the case of ASCII letters. -/
def equalIgnoringAsciiCase (left right : String) : Bool :=
  left.toList.map Char.toLower == right.toList.map Char.toLower

/-- The first text is a part of the second. -/
def occursIn (part : List Char) : List Char → Bool
  | [] => part.isEmpty
  | c :: cs => part.isPrefixOf (c :: cs) || occursIn part cs

/-- The ASCII text contains the part, whatever the letter case of both. -/
def containsIgnoringCase (text part : String) : Bool :=
  occursIn (lowercase part.toList) (lowercase text.toList)

end ConnectionPool.Text
