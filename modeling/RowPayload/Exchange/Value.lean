import RowPayload.Command.Basic
import RowPayload.Exchange.Reading
import RowPayload.Session.Mode

/-!
# Exchanging values

The form in which values travel to and from tools loses nothing: a value is tagged with
the name of its type, and a floating-point number is given by the hexadecimal digits of
its word. Bytes are given by hexadecimal digits, or as a pattern of some length; long
ones are summarised when they are shown.
-/

namespace RowPayload

open Reading

/-- A value or null. -/
def Json.ofOption {α : Type} (write : α → Json) : Option α → Json
  | none => .null
  | some value => write value

/-- A value, or the error in its place. -/
def Json.ofResult {α : Type} (write : α → Json) : Except Error α → Json
  | .ok value => write value
  | .error error => error.toJson

/-- A value, or the refusal in its place. -/
def Json.ofReading {α : Type} (write : α → Json) : Reading α → Json
  | .ok value => write value
  | .error refusal => refusal.toJson

namespace Exchange

/-- Bytes of at most this number are shown as they are. -/
def shownLength : Nat := 64

/-- How many bytes of either end a summary shows. -/
def endLength : Nat := 16

/-- The sum of bytes, each weighted with its place from one on, to 32 bits. -/
def weightedSum (bytes : Bytes) : Nat :=
  (bytes.zipIdx.foldl (fun total entry => total + (entry.2 + 1) * entry.1.toNat) 0) % Nat.pow 2 32

/-- Bytes as they are shown. -/
def writeBytes (bytes : Bytes) : Json :=
  if bytes.length ≤ shownLength then .ofText (Text.bytesHex bytes)
  else .ofMembers [("len", .ofInt bytes.length),
    ("head", .ofText (Text.bytesHex (bytes.take endLength))),
    ("tail", .ofText (Text.bytesHex (bytes.drop (bytes.length - endLength)))),
    ("sum", .ofInt (weightedSum bytes))]

/-- A pattern of bytes that does not repeat soon. -/
def pattern (length : Nat) : Bytes :=
  (List.range length).map fun place => UInt8.ofNat (place * 31 % 251)

/-- Bytes as they are given. -/
def readBytes : Json → Reading Bytes
  | .string (some digits) => need (Text.hexBytes? digits.toList)
  | json => do return pattern (← (json.member "pattern").asNat)

/-- A word in hexadecimal digits of a width. -/
def writeWord (width word : Nat) : Json :=
  let digits := Text.naturalHex word
  .ofText (String.ofList (List.replicate (width - digits.length) '0') ++ digits)

/-- The word that hexadecimal digits spell. -/
def readWord (json : Json) : Reading Nat := do need (Text.hexValue? (← json.asText).toList 0)

/-- The content of a value, to stand under its type's name. -/
def writeContent : Value → Json
  | .null => .null
  | .bool v => .bool v
  | .tinyInt v => .ofInt v.toNat
  | .smallInt v => .ofInt v.toInt
  | .int v => .ofInt v.toInt
  | .bigInt v => .ofInt v.toInt
  | .real v => writeWord 8 v.word.toNat
  | .float v => writeWord 16 v.word.toNat
  | .decimal v => .ofText v.text
  | .text v => .ofText v
  | .timestamp v => .ofText v.documentText
  | .guid v => .ofText v.text
  | .bytes v => writeBytes v

/-- A value as it is shown. -/
def writeValue (value : Value) : Json :=
  if value.isNull then .null else .ofMembers [(value.typeName, writeContent value)]

/-- A value of a type's name from its content. -/
def readContent (typeName : String) (json : Json) : Reading Value := do
  let integer (width : IntegerWidth) : Reading Value := do need (width.value? (← json.asInt))
  match typeName with
  | "bool" => return .bool (← json.asBool)
  | "u8" => integer .tiny
  | "i16" => integer .small
  | "i32" => integer .regular
  | "i64" => integer .big
  | "f32" => return .real ⟨UInt32.ofNat (← readWord json)⟩
  | "f64" => return .float ⟨UInt64.ofNat (← readWord json)⟩
  | "decimal" => return .decimal (← need (Number.Decimal.read? (← json.asText).toList))
  | "string" => return .text (← json.asText)
  | "timestamp" => return .timestamp (← need (Timestamp.parse? (← json.asText).toList))
  | "guid" => return .guid (← need (Guid.parse? (← json.asText).toList))
  | "bytes" => return .bytes (← readBytes json)
  | _ => throw .malformed

/-- A value as it is given. -/
def readValue : Json → Reading Value
  | .null => .ok .null
  | .object [(some typeName, content)] => readContent typeName content
  | _ => .error .malformed

/-- A SQL type by its document name. -/
def readType (json : Json) : Reading SqlType := do need (SqlType.ofName? (← json.asText))

/-- A SQL type by its database name. -/
def writeType (type : SqlType) : Json := .ofText type.sql

/-- A field type made in one of the usual ways. -/
def madeField (maker type : Json) : Reading FieldType := do
  match ← maker.asText with
  | "new" => return .required (← readType type)
  | "nullable" => return .optional (← readType type)
  | "enumeration" => return .enumerated (← readType type)
  | _ => throw .malformed

/-- A field type: how it is made, of which type, and whether null is allowed on top. -/
def readFieldType (json : Json) : Reading FieldType := do
  match json with
  | .array [.string (some "raw"), type, nullable, enumeration] =>
    return ⟨← readType type, ← nullable.asBool, ← enumeration.asBool⟩
  | .array [maker, type] => madeField maker type
  | .array [maker, type, .string (some "or_null")] => return (← madeField maker type).orNull
  | _ => throw .malformed

/-- An open mode by its name. -/
def readMode (json : Json) : Reading OpenMode := do
  let name ← json.asText
  need (OpenMode.all.find? fun mode => mode.name == name)

/-- An access by its name. -/
def readAccess (json : Json) : Reading Access := do
  let name ← json.asText
  need (Access.all.find? fun access => access.name == name)

/-- A parameter as it is shown. -/
def writeParameter (parameter : Parameter) : Json :=
  .ofMembers [("ordinal", .ofInt parameter.ordinal), ("name", .ofText parameter.name),
    ("column", .ofTextOption parameter.column), ("type", .ofOption writeType parameter.type),
    ("value", writeValue parameter.value)]

/-- The members of a command as it is shown. -/
def commandMembers (sql : String) (parameters : List Parameter) : List (String × Json) :=
  [("sql", .ofText sql), ("params", .array (parameters.map writeParameter))]

/-- A command as it is shown. -/
def writeCommand (command : Command) : Json :=
  .ofMembers (commandMembers command.sql command.parameters)

/-- A clause as it is shown. -/
def writeClause (clause : Clause) : Json :=
  .ofMembers (commandMembers clause.sql clause.parameters)

/-- Pairs of texts as they are shown. -/
def writePairs (pairs : List (String × String)) : Json :=
  .array (pairs.map fun pair => .array [.ofText pair.1, .ofText pair.2])

end Exchange

end RowPayload
