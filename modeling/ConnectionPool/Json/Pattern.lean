import ConnectionPool.Json.Basic

/-!
# Patterns

A JSON value serves as a pattern for another one. The wildcard `42`, as an integer or as a string,
admits whatever is present. An object pattern asks each of its members of the value, and a member
that the value lacks counts as `null`. An array pattern asks for as many items, each in its place.
Any other pattern admits the equal value.
-/

namespace ConnectionPool.Json

/-- The pattern is one of the two spellings of the wildcard. -/
def isWildcard : Json → Bool
  | .number (.integer value) => value == 42
  | .string value => value == "42"
  | _ => false

/-- The scalars are equal; a number equals only a number of its kind. -/
def scalarEqual : Json → Json → Bool
  | .null, .null => true
  | .bool left, .bool right => left == right
  | .number left, .number right => left.same right
  | .string left, .string right => left == right
  | _, _ => false

mutual

/-- The pattern admits the value. -/
def admits : Json → Json → Bool
  | .object members, actual => admitsMembers members actual
  | .array items, .array actual => admitsItems items actual
  | .array _, _ => false
  | .null, actual => scalarEqual .null actual
  | .bool value, actual => scalarEqual (.bool value) actual
  | .number value, actual =>
      if isWildcard (.number value) then !actual.isNull else scalarEqual (.number value) actual
  | .string value, actual =>
      if isWildcard (.string value) then !actual.isNull else scalarEqual (.string value) actual

/-- Each member of the pattern admits the member of that name. -/
def admitsMembers : List (String × Json) → Json → Bool
  | [], _ => true
  | (name, pattern) :: rest, actual =>
      admits pattern (actual.member name) && admitsMembers rest actual

/-- The lists are of one length and each pattern admits the item in its place. -/
def admitsItems : List Json → List Json → Bool
  | [], [] => true
  | pattern :: patterns, item :: items => admits pattern item && admitsItems patterns items
  | _, _ => false

end

end ConnectionPool.Json
