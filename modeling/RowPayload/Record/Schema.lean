import RowPayload.FieldType

/-!
# Record schemas

A schema is the table of a record type's fields: for each its name, how it is
stored, how its value is taken from a record and how one is put into a record.
Fields keep the order in which they were declared, and names may repeat.
-/

namespace RowPayload

/-- A field of records of type `ρ`. -/
structure Field (ρ : Type) where
  name : String
  type : FieldType
  get : ρ → Value
  set : Value → ρ → Except Error ρ

/-- The fields of a record type, and the record to start from. -/
structure Schema (ρ : Type) where
  typeName : String
  blank : ρ
  fields : List (Field ρ)

/-- A field as descriptions show it. -/
def Field.describe {ρ : Type} (field : Field ρ) : String :=
  "FieldDescriptor \x7b name: " ++ Text.quoted field.name ++ ", field_type: " ++
    field.type.describe ++ " \x7d"

namespace Schema

variable {ρ : Type}

/-- The first field with a name. -/
def named? (schema : Schema ρ) (name : String) : Option (Field ρ) :=
  schema.fields.find? fun field => field.name == name

/-- The schema as descriptions show it. -/
def describe (schema : Schema ρ) : String :=
  "RecordSchema \x7b type_name: " ++ Text.quoted schema.typeName ++ ", fields: [" ++
    ", ".intercalate (schema.fields.map Field.describe) ++ "] \x7d"

end Schema

end RowPayload
