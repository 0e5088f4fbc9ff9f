import RowPayload.Json.Number

/-!
# Reading records and choices from documents

A record is written as an object with named members, or as an array of the members
in order. A member that is named twice is refused, and members with other names are
passed over unless the record is closed. A choice is written as its name alone, or
as an object whose only member is its name and content.

The readers here answer `none` for a document of another shape.
-/

namespace RowPayload.Json

/-- The text of a string that spells one. -/
def text? : Json → Option String
  | .string content => content
  | _ => none

/-- A truth value. -/
def bool? : Json → Option Bool
  | .bool value => some value
  | _ => none

/-- An integer between two bounds, both included. -/
def integer? (least greatest : Int) : Json → Option Int
  | .number literal => (integerLiteral? literal).filter fun n => least ≤ n && n ≤ greatest
  | _ => none

/-- Null, or what another reader takes. -/
def nullable? {α : Type} (reader : Json → Option α) : Json → Option (Option α)
  | .null => some none
  | json => (reader json).map some

/-- All items of an array, each as the reader takes it. -/
def list? {α : Type} (reader : Json → Option α) : Json → Option (List α)
  | .array items => items.mapM reader
  | _ => none

/-- The values found for the members of a record so far. -/
abbrev Members := List (String × Json)

/-- File the members of an object under the names of a record. -/
def fileMembers (names : List String) (closed : Bool) :
    List (Option String × Json) → Members → Option Members
  | [], found => some found
  | (none, _) :: _, _ => none
  | (some name, value) :: rest, found =>
    if names.contains name then
      if (found.lookup name).isSome then none
      else fileMembers names closed rest (found ++ [(name, value)])
    else if closed then none
    else fileMembers names closed rest found

/-- The members of a record with the given names, from an object or an array. -/
def record? (names : List String) (closed : Bool) : Json → Option Members
  | .object members => fileMembers names closed members []
  | .array items => if items.length ≤ names.length then some (names.zip items) else none
  | _ => none

/-- A member that must be there. -/
def Members.require {α : Type} (members : Members) (name : String)
    (reader : Json → Option α) : Option α :=
  (members.lookup name).bind reader

/-- A member with a value for when it is missing. -/
def Members.default {α : Type} (members : Members) (name : String) (missing : α)
    (reader : Json → Option α) : Option α :=
  match members.lookup name with
  | none => some missing
  | some json => reader json

/-- The name of a choice and its content, which a bare name does not have. -/
def choice? : Json → Option (String × Option Json)
  | .string (some name) => some (name, none)
  | .object [(some name, content)] => some (name, some content)
  | _ => none

end RowPayload.Json
