import RowPayload.Exchange.Value
import RowPayload.Mapping.Convention
import RowPayload.Mapping.Metadata

/-!
# Exchanging mappings

A mapping is given by the parts of a descriptor, or by a provider: by convention, from
a metadata document, or by parts that may report a payload column of their own.
-/

namespace RowPayload.Exchange

open Reading

/-- A descriptor made from its parts, or a provider. -/
inductive GivenMapping where
  | direct (result : Except Error Descriptor)
  | provided (provider : Provider)

/-- The descriptor of a mapping. -/
def GivenMapping.descriptor : GivenMapping → Except Error Descriptor
  | .direct result => result
  | .provided provider => provider.descriptor

/-- The columns of a mapping. -/
def readColumns (json : Json) : Reading (OrderedMap String String) := do
  return .ofList (← json.itemsAt "columns" Json.asTextPair)

/-- A mapping by convention. -/
def readConvention {ρ : Type} (schema : Schema ρ) (json : Json) : Reading Provider := do
  let databaseSchema := (← json.textAt? "in_schema").getD Convention.standardSchema
  let without ← Json.asOption Json.asBool (json.member "without_identifier")
  let identifier ← json.textAt? "identifier"
  return Convention.provider
    ⟨databaseSchema, if without.getD false then none else identifier, ← json.textAt "blob"⟩ schema

/-- A mapping whose payload column may be reported differently. -/
def readReported (json : Json) : Reading Provider := do
  let provider := Provider.consistent (← json.textAt "table") (← readColumns json)
    (← json.textAt? "identifier") (← json.textAt "blob")
  match ← json.textAt? "reported" with
  | none => return provider
  | some column => return { provider with reported := .ok column }

/-- A mapping as it is given, with a way to read schemas. -/
def readMapping {ρ : Type} (readSchema : Json → Reading (Schema ρ)) (json : Json) :
    Reading GivenMapping := do
  if let some given := json.member? "convention" then
    return .provided (← readConvention (← readSchema (given.member "schema")) given)
  else if let some given := json.member? "metadata" then
    return .provided
      (← proper (Metadata.provider (← given.textAt "json") (← given.textAt "entity")))
  else if let some given := json.member? "custom" then
    return .provided (← readReported given)
  else
    return .direct (Descriptor.make (← json.textAt "table") (← readColumns json)
      (← json.textAt? "identifier") (← json.textAt "blob"))

/-- A descriptor as it is shown, with the columns of some properties. -/
def writeDescriptor (properties : List String) (descriptor : Descriptor) : Json :=
  .ofMembers [("table", .ofText descriptor.table),
    ("identifier", .ofTextOption descriptor.identifier), ("blob", .ofText descriptor.payload),
    ("blob_column", .ofText descriptor.payloadColumn),
    ("columns", writePairs descriptor.columns.entries),
    ("scalars", writePairs descriptor.scalarColumns),
    ("lookup", .array (properties.map fun property =>
      .ofResult Json.ofText (descriptor.column property))),
    ("require_identifier", .ofResult Json.ofText descriptor.requireIdentifier)]

/-- A provider as it is shown. -/
def writeProvider (provider : Provider) : Json :=
  .ofMembers [("table", .ofText provider.table),
    ("identifier", .ofTextOption provider.identifier), ("blob", .ofText provider.payload),
    ("columns", writePairs provider.columns.entries),
    ("blob_column", .ofResult Json.ofText provider.reported)]

end RowPayload.Exchange
