import ConnectionPool.Json.Basic

/-!
# Records

A record has named fields in a fixed order. It is written as an object, with its fields by name,
or as an array, with its fields by place. An object may have further members, which do not
count; an array has no more items than there are fields.
-/

namespace ConnectionPool.Json

/-- The values given to the fields of these names. -/
def fieldValues? (names : List String) : Json → Option (List (String × Json))
  | .object members => some members
  | .array items => if items.length ≤ names.length then some (names.zip items) else none
  | _ => none

/-- Read a field that has to be given. -/
def required? (read : Json → Option α) (fields : List (String × Json))
    (name : String) : Option α :=
  (lookup name fields).bind read

/-- Read a field that has a default; if it is given it has to be readable. -/
def defaulted? (read : Json → Option α) (fallback : α) (fields : List (String × Json))
    (name : String) : Option α :=
  match lookup name fields with
  | none => some fallback
  | some value => read value

/-- Read a field that may be missing or `null`. -/
def nullable? (read : Json → Option α) (fields : List (String × Json)) (name : String) :
    Option (Option α) :=
  match lookup name fields with
  | none | some .null => some none
  | some value => (read value).map some

/-- Read a string. -/
def string? : Json → Option String
  | .string value => some value
  | _ => none

/-- Read a truth value. -/
def bool? : Json → Option Bool
  | .bool value => some value
  | _ => none

/-- Read a natural number below the bound. A float is none. -/
def natBelow? (bound : Nat) : Json → Option Nat
  | .number (.integer value) => if 0 ≤ value ∧ value < bound then some value.toNat else none
  | _ => none

/-- Read an array of values. -/
def listOf? (read : Json → Option α) : Json → Option (List α)
  | .array items => items.mapM read
  | _ => none

end ConnectionPool.Json
