/-!
# Cutting a text at separators

A text is cut at the first or at the last place where a separator stands, or at every place where
a class of separators stands. The separators themselves are dropped.
-/

namespace ConnectionPool.Text

/-- The text before and after the first `sep`. -/
def splitFirst (sep : Char) : List Char → Option (List Char × List Char)
  | [] => none
  | c :: cs =>
      if c = sep then some ([], cs)
      else (splitFirst sep cs).map fun parts => (c :: parts.1, parts.2)

/-- The text before and after the last `sep`. -/
def splitLast (sep : Char) : List Char → Option (List Char × List Char)
  | [] => none
  | c :: cs =>
      match splitLast sep cs with
      | some parts => some (c :: parts.1, parts.2)
      | none => if c = sep then some ([], cs) else none

/-- The pieces of the text between separators; there is one more piece than separators. -/
def pieces (isSeparator : Char → Bool) : List Char → List (List Char)
  | [] => [[]]
  | c :: cs =>
      if isSeparator c then [] :: pieces isSeparator cs
      else
        match pieces isSeparator cs with
        | [] => [[c]]
        | piece :: rest => (c :: piece) :: rest

end ConnectionPool.Text
