/-!
# JSON values

A number keeps the kind it was written in: an integer is one whole number, a float is the bits
of a binary64 value. An object is the list of its members; a value that was read has no two
members of one name in an object.
-/

namespace ConnectionPool

/-- A JSON number: a whole number, or the bits of a finite binary64 value. -/
inductive Number where
  | integer (value : Int)
  | float (bits : UInt64)
  deriving DecidableEq, Repr

/-- A JSON value. -/
inductive Json where
  | null
  | bool (value : Bool)
  | number (value : Number)
  | string (value : String)
  | array (items : List Json)
  | object (members : List (String × Json))
  deriving Inhabited

/-- The numbers are of one kind and equal. The two zeros of binary64 are equal. -/
def Number.same : Number → Number → Bool
  | .integer left, .integer right => left == right
  | .float left, .float right =>
      left == right || (left <<< 1 == 0 && right <<< 1 == 0)
  | _, _ => false

theorem Number.same_refl (n : Number) : n.same n = true := by
  cases n <;> simp [Number.same]

namespace Json

/-- The value is `null`. -/
def isNull : Json → Bool
  | .null => true
  | _ => false

/-- The first member of the name. -/
def lookup (name : String) : List (String × Json) → Option Json
  | [] => none
  | (key, value) :: rest => if key = name then some value else lookup name rest

/-- The member of the name; `none` if it is missing or the value is no object. -/
def get? (value : Json) (name : String) : Option Json :=
  match value with
  | .object members => lookup name members
  | _ => none

/-- The member of the name; `null` if it is missing or the value is no object. -/
def member (value : Json) (name : String) : Json :=
  (value.get? name).getD .null

/-- A whole number. -/
def nat (n : Nat) : Json :=
  .number (.integer n)

/-- A whole number that may be negative. -/
def int (n : Int) : Json :=
  .number (.integer n)

/-- The value, or `null` for an absent one. -/
def ofOption (encode : α → Json) : Option α → Json
  | some a => encode a
  | none => .null

end Json

end ConnectionPool
