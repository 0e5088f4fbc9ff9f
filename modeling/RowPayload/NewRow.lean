import RowPayload.Ambient
import RowPayload.OrderedMap
import RowPayload.Record.Schema
import RowPayload.Scalar

/-!
# New rows

The values of a row about to be inserted, by property and in the order in which the
properties were set. Setting a property again replaces its value in its place.
-/

namespace RowPayload

/-- The values of a row about to be inserted. -/
structure NewRow (ε : Type) where
  values : OrderedMap String (ValueSource ε)

namespace NewRow

variable {ε : Type}

/-- No property is set. -/
def empty : NewRow ε := ⟨OrderedMap.empty⟩

/-- Set a property to the value of a source. -/
def setSource (row : NewRow ε) (property : String) (source : ValueSource ε) : NewRow ε :=
  ⟨row.values.insert property source⟩

/-- Set a property to a fixed value. -/
def set (row : NewRow ε) (property : String) (value : Value) : NewRow ε :=
  row.setSource property (.literal value)

/-- Set an enumeration property to a member. -/
def setMember {α : Type} (row : NewRow ε) (enumeration : Enumeration α) (property : String)
    (member : α) : NewRow ε :=
  row.set property (enumeration.encode member)

/-- The values of a record's fields. -/
def ofRecord {ρ : Type} (schema : Schema ρ) (record : ρ) : NewRow ε :=
  schema.fields.foldl (fun row field => row.set field.name (field.get record)) empty

/-- The value of a property, if it is set. -/
def evaluate? (row : NewRow ε) (property : String) : StateM ε (Option Value) :=
  match row.values.get? property with
  | none => pure none
  | some source => do return some (← source.evaluate)

/-- The properties in order. -/
def properties (row : NewRow ε) : List String := row.values.keys

/-- The row as descriptions show it. -/
def describe (row : NewRow ε) : String :=
  let shown := row.values.entries.map fun (property, source) =>
    "(" ++ Text.quoted property ++ ", " ++ source.describe ++ ")"
  "NewRow \x7b values: [" ++ ", ".intercalate shown ++ "] \x7d"

end NewRow

end RowPayload
