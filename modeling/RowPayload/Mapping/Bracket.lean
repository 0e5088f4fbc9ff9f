/-!
# Bracketed names

A column name may stand in square brackets. Only a pair that encloses the whole
name counts, and only one pair is ever taken off or put on.
-/

namespace RowPayload.Bracket

/-- The characters of a name without an enclosing pair of brackets. -/
def stripCharacters : List Char → List Char
  | [] => []
  | c :: rest =>
    if c = '[' ∧ rest.getLast? = some ']' then rest.dropLast else c :: rest

/-- A name without an enclosing pair of brackets. -/
def strip (name : String) : String := String.ofList (stripCharacters name.toList)

/-- The characters of a name in brackets, which it may already have. -/
def encloseCharacters (name : List Char) : List Char :=
  if name.head? = some '[' ∧ name.getLast? = some ']' then name else '[' :: name ++ [']']

/-- A name in brackets, which it may already have. -/
def enclose (name : String) : String := String.ofList (encloseCharacters name.toList)

end RowPayload.Bracket
