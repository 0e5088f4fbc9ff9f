import RowPayload.Error
import RowPayload.Json.Basic

/-!
# Refusals

Why a request that came from outside is not carried out: it makes no sense, a document
in it cannot be read, it names something that is not there or is lent to somebody
else, or carrying it out failed.
-/

namespace RowPayload

/-- Why a request is not carried out. -/
inductive Refusal where
  | malformed
  | unreadable
  | unknownName
  | lent
  | failed (error : Error)
  | io (fault : IoFault)
deriving DecidableEq, Inhabited

/-- An error as a document: its code, its message, and its cause if it has one. -/
def Error.toJson (error : Error) : Json :=
  .ofMembers ([("error", .ofText error.code), ("message", .ofText error.message)] ++
    (error.cause?.map fun cause => ("source", Json.ofText cause)).toList)

/-- A fault of byte access as a document. -/
def IoFault.toJson (fault : IoFault) : Json :=
  .ofMembers [("error", .ofText "io"), ("kind", .ofText fault.kind),
    ("message", .ofText fault.message)]

/-- A refusal as a document. -/
def Refusal.toJson : Refusal → Json
  | .malformed => .ofMembers [("error", .ofText "BadInput")]
  | .unreadable => .ofMembers [("error", .ofText "Json")]
  | .unknownName => .ofMembers [("error", .ofText "NoHandle")]
  | .lent => .ofMembers [("error", .ofText "Borrowed")]
  | .failed error => error.toJson
  | .io fault => fault.toJson

end RowPayload
