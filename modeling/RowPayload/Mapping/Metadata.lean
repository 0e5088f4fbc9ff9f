import RowPayload.Mapping.Descriptor
import RowPayload.Json.Record
import RowPayload.Json.Reader

/-!
# Mapping from a metadata document

A document describes entities: for each the table, the identifier with its column,
the payload property and the columns of properties. The identifier comes first and
its column keeps its spelling; the other columns are put in brackets. Of repeated
properties the first counts.
-/

namespace RowPayload.Metadata

/-- A property and the column it is stored in. -/
structure Column where
  property : String
  column : String
deriving DecidableEq

/-- How the records of one entity are stored. -/
structure Entity where
  name : String
  table : String
  identifier : Option Column
  payload : String
  columns : List Column
deriving DecidableEq

/-- The entities a document describes. -/
structure Document where
  entities : List Entity
deriving DecidableEq

/-- The column as a document. -/
def Column.toJson (column : Column) : Json :=
  .object [(some "property", Json.ofText column.property),
    (some "column", Json.ofText column.column)]

/-- The column a document describes. -/
def Column.ofJson? (json : Json) : Option Column := do
  let members ← json.record? ["property", "column"] false
  return ⟨← members.require "property" Json.text?, ← members.require "column" Json.text?⟩

/-- The entity as a document. -/
def Entity.toJson (entity : Entity) : Json :=
  .object [
    (some "entity", Json.ofText entity.name),
    (some "table", Json.ofText entity.table),
    (some "identifier", (entity.identifier.map Column.toJson).getD .null),
    (some "blob_property", Json.ofText entity.payload),
    (some "columns", .array (entity.columns.map Column.toJson))]

/-- The entity a document describes. -/
def Entity.ofJson? (json : Json) : Option Entity := do
  let members ← json.record?
    ["entity", "table", "identifier", "blob_property", "columns"] false
  return {
    name := ← members.require "entity" Json.text?
    table := ← members.require "table" Json.text?
    identifier := ← members.default "identifier" none (Json.nullable? Column.ofJson?)
    payload := ← members.require "blob_property" Json.text?
    columns := ← members.default "columns" [] (Json.list? Column.ofJson?) }

namespace Document

/-- The document as JSON. -/
def toJson (document : Document) : Json :=
  .object [(some "entities", .array (document.entities.map Entity.toJson))]

/-- The document that JSON describes. -/
def ofJson? (json : Json) : Option Document := do
  let members ← json.record? ["entities"] false
  return ⟨← members.require "entities" (Json.list? Entity.ofJson?)⟩

/-- The document of a JSON text. -/
def parse (text : String) : Except Error Document :=
  match (Json.read? text).bind ofJson? with
  | some document => .ok document
  | none => .error (.invalidMapping .malformedDocument)

/-- The first entity with a name. -/
def entity? (document : Document) (name : String) : Option Entity :=
  document.entities.find? fun entity => entity.name == name

end Document

/-- The columns of an entity's properties. -/
def Entity.propertyColumns (entity : Entity) : OrderedMap String String :=
  let identified := match entity.identifier with
    | none => OrderedMap.empty
    | some id => OrderedMap.empty.insert id.property id.column
  entity.columns.foldl
    (fun map c =>
      if map.contains c.property then map
      else map.insert c.property (Bracket.enclose c.column))
    identified

/-- The mapping of an entity. -/
def Entity.provider (entity : Entity) : Provider :=
  Provider.consistent entity.table entity.propertyColumns
    (entity.identifier.map Column.property) entity.payload

/-- The mapping of an entity that a JSON text describes. -/
def provider (text entity : String) : Except Error Provider := do
  let document ← Document.parse text
  match document.entity? entity with
  | some found => return found.provider
  | none => throw (.invalidMapping (.undescribedEntity entity))

end RowPayload.Metadata
