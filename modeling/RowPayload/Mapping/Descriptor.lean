import RowPayload.Error
import RowPayload.OrderedMap
import RowPayload.Text.Blank
import RowPayload.Mapping.Bracket

/-!
# Mapping descriptors

A descriptor says how the records of one type are stored: in which table, with
which column for each property, which property identifies a row, and which holds
the payload. `Descriptor.make` is the only way to one, so that the payload has a
column and an identifier, if any, is another mapped property.
-/

namespace RowPayload

/-- How the records of one type are stored. -/
structure Descriptor where
  table : String
  columns : OrderedMap String String
  identifier : Option String
  payload : String
  payloadColumn : String
  payload_mapped : columns.get? payload = some payloadColumn
  identifier_mapped : ∀ property, identifier = some property →
    columns.contains property = true ∧ property ≠ payload

namespace Descriptor

/-- The descriptor of the given parts, if they fit together. -/
def make (table : String) (columns : OrderedMap String String) (identifier : Option String)
    (payload : String) : Except Error Descriptor :=
  if (Text.trim table.toList).isEmpty then .error (.invalidMapping .emptyTable)
  else match mapped : columns.get? payload with
    | none => .error (.unmappedProperty payload table)
    | some payloadColumn =>
      match identifier with
      | none => .ok ⟨table, columns, none, payload, payloadColumn, mapped, nofun⟩
      | some property =>
        if known : columns.contains property then
          if other : property = payload then
            .error (.invalidMapping (.payloadIsIdentifier property table))
          else
            .ok ⟨table, columns, some property, payload, payloadColumn, mapped,
              fun _ equal => Option.some.inj equal ▸ ⟨known, other⟩⟩
        else .error (.unmappedProperty property table)

/-- The column of a property. -/
def column (descriptor : Descriptor) (property : String) : Except Error String :=
  match descriptor.columns.get? property with
  | some column => .ok column
  | none => .error (.unmappedProperty property descriptor.table)

/-- The identifier property, which has to be mapped. -/
def requireIdentifier (descriptor : Descriptor) : Except Error String :=
  match descriptor.identifier with
  | some property => .ok property
  | none => .error (.missingIdentifier descriptor.table)

/-- Every property but the payload with its column, in order. -/
def scalarColumns (descriptor : Descriptor) : List (String × String) :=
  descriptor.columns.entries.filter fun (property, _) => property != descriptor.payload

end Descriptor

/-- A source of mappings. `reported` is what it says the payload column is. -/
structure Provider where
  table : String
  columns : OrderedMap String String
  identifier : Option String
  payload : String
  reported : Except Error String

namespace Provider

/-- The payload column that follows from the other parts of a mapping. -/
def payloadColumn (table : String) (columns : OrderedMap String String) (payload : String) :
    Except Error String :=
  match columns.get? payload with
  | some column => .ok column
  | none => .error (.unmappedProperty payload table)

/-- A provider that reports the payload column its own mapping gives. -/
def consistent (table : String) (columns : OrderedMap String String)
    (identifier : Option String) (payload : String) : Provider :=
  ⟨table, columns, identifier, payload, payloadColumn table columns payload⟩

/-- The descriptor of a provider, which must report the payload column it maps. -/
def descriptor (provider : Provider) : Except Error Descriptor := do
  let made ← Descriptor.make provider.table provider.columns provider.identifier provider.payload
  let reported ← provider.reported
  if reported = made.payloadColumn then return made
  else throw (.invalidMapping (.payloadColumnDiffers reported made.payload made.payloadColumn))

end Provider

end RowPayload
