import RowPayload.Exchange.Refusal
import RowPayload.Json.Record

/-!
# Reading requests

A request is a document whose parts are read one by one. A part of another shape than
the one asked for makes the request malformed.
-/

namespace RowPayload

/-- What reading a part of a request comes to. -/
abbrev Reading := Except Refusal

namespace Reading

variable {α : Type}

/-- A value that has to be there. -/
def need : Option α → Reading α
  | some value => .ok value
  | none => .error .malformed

/-- A result whose error is the refusal. -/
def proper (result : Except Error α) : Reading α := result.mapError Refusal.failed

end Reading

namespace Json

open Reading

variable {α : Type}

/-- The text a part spells. -/
def asText (json : Json) : Reading String := need json.text?

/-- The truth value a part holds. -/
def asBool (json : Json) : Reading Bool := need json.bool?

/-- The integer a part holds. -/
def asInt : Json → Reading Int
  | .number literal => need (integerLiteral? literal)
  | _ => .error .malformed

/-- The natural number a part holds. -/
def asNat (json : Json) : Reading Nat := do
  let n ← json.asInt
  if n < 0 then throw .malformed
  return n.toNat

/-- The items of a part, each read the same way. -/
def asList (read : Json → Reading α) : Json → Reading (List α)
  | .array items => items.mapM read
  | _ => .error .malformed

/-- Nothing if a part is null. -/
def asOption (read : Json → Reading α) : Json → Reading (Option α)
  | .null => .ok none
  | json => (read json).map some

/-- The text of a member. -/
def textAt (json : Json) (name : String) : Reading String := (json.member name).asText

/-- The text of a member that may be missing. -/
def textAt? (json : Json) (name : String) : Reading (Option String) :=
  asOption asText (json.member name)

/-- The items of a member, none if it is missing. -/
def itemsAt (json : Json) (name : String) (read : Json → Reading α) : Reading (List α) := do
  return (← asOption (asList read) (json.member name)).getD []

/-- Two texts. -/
def asTextPair (json : Json) : Reading (String × String) := do
  match ← json.asList asText with
  | [left, right] => return (left, right)
  | _ => throw .malformed

end Json

end RowPayload
