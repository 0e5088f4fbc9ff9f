import RowPayload.Record.Schema

/-!
# Schema registries

A registry keeps at most one schema for each record type. The record types are the
members of a type `κ`, and `ρ` says what the records of each look like.
-/

namespace RowPayload

/-- Schemas filed under record types, each type at most once. -/
structure Registry (κ : Type) (ρ : κ → Type) where
  schemas : List ((kind : κ) × Schema (ρ kind))

namespace Registry

variable {κ : Type} {ρ : κ → Type} [DecidableEq κ]

/-- The registry without schemas. -/
def empty : Registry κ ρ := ⟨[]⟩

/-- File a schema in the place of an earlier one of its type, or last. -/
def file (kind : κ) (schema : Schema (ρ kind)) :
    List ((kind : κ) × Schema (ρ kind)) → List ((kind : κ) × Schema (ρ kind))
  | [] => [⟨kind, schema⟩]
  | entry :: rest =>
    if entry.1 = kind then ⟨kind, schema⟩ :: rest else entry :: file kind schema rest

/-- The registry with a schema for a record type, in place of any earlier one. -/
def register (registry : Registry κ ρ) (kind : κ) (schema : Schema (ρ kind)) : Registry κ ρ :=
  ⟨file kind schema registry.schemas⟩

/-- The schema found under a record type. -/
def lookup (kind : κ) : List ((kind : κ) × Schema (ρ kind)) → Option (Schema (ρ kind))
  | [] => none
  | entry :: rest => if same : entry.1 = kind then some (same ▸ entry.2) else lookup kind rest

/-- The schema of a record type, if there is one. -/
def get? (registry : Registry κ ρ) (kind : κ) : Option (Schema (ρ kind)) :=
  lookup kind registry.schemas

/-- The schema of a record type, which has to be there. -/
def require (registry : Registry κ ρ) (recordName : κ → String) (kind : κ) :
    Except Error (Schema (ρ kind)) :=
  match registry.get? kind with
  | some schema => .ok schema
  | none => .error (.invalidMapping (.unregistered (recordName kind)))

/-- The number of schemas. -/
def size (registry : Registry κ ρ) : Nat := registry.schemas.length

/-- The type names of the schemas. -/
def typeNames (registry : Registry κ ρ) : List String :=
  registry.schemas.map fun entry => entry.2.typeName

/-- The registry as descriptions show it. -/
def describe (registry : Registry κ ρ) : String :=
  "SchemaRegistry \x7b types: [" ++ ", ".intercalate (registry.typeNames.map Text.quoted) ++
    "] \x7d"

end Registry

end RowPayload
