import RowPayload.ResultSet
import RowPayload.Record.Schema
import RowPayload.Mapping.Descriptor

/-!
# Materialization

A record is rebuilt from a result row field by field, in the order of the schema. A
field is filled if it is not skipped, is mapped, and its column is in the row;
otherwise it keeps the value of the blank record. The first failure ends it.
-/

namespace RowPayload

/-- Name the column in a mismatch that names none. -/
def Error.atColumn (column : String) : Error → Error
  | .typeMismatch "" expected actual => .typeMismatch column expected actual
  | other => other

namespace Materialize

variable {ρ : Type}

/-- The column name and value that a row holds for a field. -/
def source? (descriptor : Descriptor) (skipped : List String) (row : ResultRow)
    (field : Field ρ) : Option (String × Value) :=
  if skipped.contains field.name then none
  else do
    let column ← descriptor.columns.get? field.name
    let name := Bracket.strip column
    return (name, ← row.value? name)

/-- Fill a field of a record from a row, if the row holds something for it. -/
def fill (descriptor : Descriptor) (skipped : List String) (row : ResultRow) (record : ρ)
    (field : Field ρ) : Except Error ρ :=
  match source? descriptor skipped row field with
  | none => .ok record
  | some (name, raw) => do
    let value ← field.type.read name raw
    (field.set value record).mapError (Error.atColumn name)

/-- The record that a row holds. -/
def record (schema : Schema ρ) (descriptor : Descriptor) (skipped : List String)
    (row : ResultRow) : Except Error ρ :=
  schema.fields.foldlM (fill descriptor skipped row) schema.blank

end Materialize

end RowPayload
