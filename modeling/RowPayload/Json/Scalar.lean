import RowPayload.Json.Record
import RowPayload.FieldType

/-!
# Values and types in documents

A value is a choice named after its constructor, a SQL type a choice without
content, and a field type a record. Decimals, timestamps and GUIDs are written as
texts and bytes as numbers. Decimals are also read from numbers.
-/

namespace RowPayload

open Number

/-- A choice with content. -/
def Json.choice (name : String) (content : Json) : Json := .object [(some name, content)]

namespace Value

/-- The value as a document. -/
def toJson : Value → Json
  | .null => Json.ofText "Null"
  | .bool v => Json.choice "Bool" (.bool v)
  | .tinyInt v => Json.choice "TinyInt" (Json.ofInt v.toNat)
  | .smallInt v => Json.choice "SmallInt" (Json.ofInt v.toInt)
  | .int v => Json.choice "Int" (Json.ofInt v.toInt)
  | .bigInt v => Json.choice "BigInt" (Json.ofInt v.toInt)
  | .real v => Json.choice "Real" (Json.ofDatum Style.documentSingle .single v.datum)
  | .float v => Json.choice "Float" (Json.ofDatum Style.documentDouble .double v.datum)
  | .decimal v => Json.choice "Decimal" (Json.ofText v.text)
  | .text v => Json.choice "Text" (Json.ofText v)
  | .timestamp v => Json.choice "Timestamp" (Json.ofText v.documentText)
  | .guid v => Json.choice "Guid" (Json.ofText v.text)
  | .bytes v => Json.choice "Bytes" (.array (v.map fun byte => Json.ofInt byte.toNat))

/-- The integer a literal spells, if a word of 64 bits holds it. -/
def wordInteger? (literal : String) : Option Int :=
  (Json.integerLiteral? literal).filter fun n =>
    -0x8000000000000000 ≤ n && n < 0x10000000000000000

/-- A 32-bit number from a document's number: the one closest to an integer, or to
the 64-bit number that is read. -/
def singleOfJson? : Json → Option Single
  | .number literal =>
    match wordInteger? literal with
    | some n => some (Single.ofQuotient (n < 0) n.natAbs 1)
    | none => (Json.doubleLiteral? literal).map Double.narrow
  | _ => none

/-- A 64-bit number from a document's number. -/
def doubleOfJson? : Json → Option Double
  | .number literal => Json.doubleLiteral? literal
  | _ => none

/-- An exact decimal from a document's text or number. Numbers not written as 64-bit
integers go through the plain text of the closest 64-bit number. -/
def decimalOfJson? : Json → Option Decimal
  | .string (some letters) => Decimal.parse? letters.toList
  | .number literal =>
    match wordInteger? literal with
    | some n => some (.ofInt n)
    | none => do
      let x ← Json.doubleLiteral? literal
      Decimal.read? (Style.plain.write .double x.datum).toList
  | _ => none

/-- The value a document stands for. -/
def ofJson? (json : Json) : Option Value := do
  match ← Json.choice? json with
  | ("Null", none) => return .null
  | ("Null", some .null) => return .null
  | ("Bool", some content) => return .bool (← content.bool?)
  | ("TinyInt", some content) =>
    IntegerWidth.tiny.value? (← content.integer? IntegerWidth.tiny.least IntegerWidth.tiny.greatest)
  | ("SmallInt", some content) =>
    IntegerWidth.small.value?
      (← content.integer? IntegerWidth.small.least IntegerWidth.small.greatest)
  | ("Int", some content) =>
    IntegerWidth.regular.value?
      (← content.integer? IntegerWidth.regular.least IntegerWidth.regular.greatest)
  | ("BigInt", some content) =>
    IntegerWidth.big.value? (← content.integer? IntegerWidth.big.least IntegerWidth.big.greatest)
  | ("Real", some content) => return .real (← singleOfJson? content)
  | ("Float", some content) => return .float (← doubleOfJson? content)
  | ("Decimal", some content) => return .decimal (← decimalOfJson? content)
  | ("Text", some content) => return .text (← content.text?)
  | ("Timestamp", some content) => return .timestamp (← Timestamp.parse? (← content.text?).toList)
  | ("Guid", some content) => return .guid (← Guid.parse? (← content.text?).toList)
  | ("Bytes", some content) =>
    let numbers ← content.list? (Json.integer? 0 255)
    return .bytes (numbers.map fun n => UInt8.ofNat n.toNat)
  | _ => none

end Value

namespace SqlType

/-- The type as a document. -/
def toJson (type : SqlType) : Json := Json.ofText type.name

/-- The type a document names. -/
def ofJson? (json : Json) : Option SqlType := do
  match ← Json.choice? json with
  | (name, none) => ofName? name
  | (name, some .null) => ofName? name
  | _ => none

end SqlType

namespace FieldType

/-- The field type as a document. -/
def toJson (type : FieldType) : Json :=
  .object [(some "sql", type.sql.toJson), (some "nullable", .bool type.nullable),
    (some "enumeration", .bool type.enumeration)]

/-- The field type a document describes. -/
def ofJson? (json : Json) : Option FieldType := do
  let members ← json.record? ["sql", "nullable", "enumeration"] false
  return ⟨← members.require "sql" SqlType.ofJson?, ← members.require "nullable" Json.bool?,
    ← members.require "enumeration" Json.bool?⟩

end FieldType

end RowPayload
