import RowPayload.Mapping.Descriptor
import RowPayload.Record.Schema

/-!
# Mapping by convention

Without further word a record type is stored in the table of its own name, and each
field in the column of its name, in brackets.
-/

namespace RowPayload

/-- The choices that a mapping by convention leaves open. -/
structure Convention where
  databaseSchema : String
  identifier : Option String
  payload : String

/-- The database schema used when none is chosen. -/
def Convention.standardSchema : String := "dbo"

/-- The mapping of a record type by convention. -/
def Convention.provider {ρ : Type} (convention : Convention) (schema : Schema ρ) : Provider :=
  Provider.consistent (convention.databaseSchema ++ "." ++ schema.typeName)
    (OrderedMap.ofList (schema.fields.map fun field => (field.name, Bracket.enclose field.name)))
    convention.identifier convention.payload

end RowPayload
