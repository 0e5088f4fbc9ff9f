import RowPayload.Error

/-!
# Reading columns

`SqlType.read` accepts a value that a column of the type can hold. Between the
integer types a value is rewidened when its number fits and refused otherwise.
`FieldType.read` adds what a record field says: whether null is allowed, and
whether the field is an enumeration, which only integer types can store.
-/

namespace RowPayload

namespace SqlType

/-- The type a value is bound as. Null and binary data have none. -/
def of? : Value → Option SqlType
  | .null | .bytes _ => none
  | .bool _ => some .bit
  | .tinyInt _ => some .tinyInt
  | .smallInt _ => some .smallInt
  | .int _ => some .int
  | .bigInt _ => some .bigInt
  | .real _ => some .real
  | .float _ => some .float
  | .decimal _ => some .decimal
  | .text _ => some .nvarChar
  | .timestamp _ => some .dateTime2
  | .guid _ => some .uniqueIdentifier

/-- The type a filter binds a value as. -/
def infer (value : Value) : Except Error SqlType :=
  match of? value with
  | some type => .ok type
  | none => .error (.unsupportedType value.typeName)

/-- The width of an integer type. -/
def width? : SqlType → Option IntegerWidth
  | .tinyInt => some .tiny
  | .smallInt => some .small
  | .int => some .regular
  | .bigInt => some .big
  | _ => none

/-- Whether the type is an integer type. -/
def isInteger (type : SqlType) : Bool := type.width?.isSome

/-- Whether a value of another than an integer type is what a column of the type
holds. -/
def holds : SqlType → Value → Bool
  | .bit, .bool _ => true
  | .nvarChar, .text _ => true
  | .decimal, .decimal _ => true
  | .real, .real _ => true
  | .float, .float _ => true
  | .dateTime2, .timestamp _ => true
  | .uniqueIdentifier, .guid _ => true
  | .varBinary, .bytes _ => true
  | _, _ => false

/-- The value as a column of the type holds it, if it can. -/
def fit? (type : SqlType) (value : Value) : Option Value :=
  match type.width? with
  | some width => value.integer?.bind width.value?
  | none => if type.holds value then some value else none

/-- The value as a column of the type holds it. -/
def read (type : SqlType) (column : String) (value : Value) : Except Error Value :=
  match type.fit? value with
  | some held => .ok held
  | none => .error (.typeMismatch column type.sql value.typeName)

end SqlType

/-- How a record field is stored. -/
structure FieldType where
  sql : SqlType
  nullable : Bool
  enumeration : Bool
deriving DecidableEq

namespace FieldType

/-- A field that is never null. -/
def required (sql : SqlType) : FieldType := ⟨sql, false, false⟩

/-- A field that may be null. -/
def optional (sql : SqlType) : FieldType := ⟨sql, true, false⟩

/-- An enumeration kept as an integer. -/
def enumerated (storage : SqlType) : FieldType := ⟨storage, false, true⟩

/-- The same field, null being allowed. -/
def orNull (type : FieldType) : FieldType := { type with nullable := true }

/-- The value as the field's column holds it. -/
def read (type : FieldType) (column : String) (value : Value) : Except Error Value :=
  if value.isNull then
    if type.nullable then .ok .null else .error (.typeMismatch column type.sql.sql "NULL")
  else if type.enumeration && !type.sql.isInteger then
    .error (.invalidMapping (.enumerationStorage column type.sql))
  else type.sql.read column value

/-- The field type as descriptions show it. -/
def describe (type : FieldType) : String :=
  let flag (b : Bool) := if b then "true" else "false"
  "FieldType \x7b sql: " ++ type.sql.name ++ ", nullable: " ++ flag type.nullable ++
    ", enumeration: " ++ flag type.enumeration ++ " \x7d"

end FieldType

end RowPayload
