import RowPayload.Error

/-!
# Typed reading of values

A `Scalar` is a type a program can ask a value to be read as. Integers are read at
any width that holds the number, 32-bit floats also as 64-bit floats, and nothing
else is converted. An `Enumeration` is a set of named numbers stored as integers.
-/

namespace RowPayload

/-- A type that values are read as. -/
inductive Scalar where
  | bool
  | integer (width : IntegerWidth)
  | real
  | float
  | decimal
  | text
  | timestamp
  | guid
  | bytes
deriving DecidableEq

namespace Scalar

/-- The name of the type in mismatch messages. -/
def typeName : Scalar → String
  | .bool => "bool"
  | .integer .tiny => "u8"
  | .integer .small => "i16"
  | .integer .regular => "i32"
  | .integer .big => "i64"
  | .real => "f32"
  | .float => "f64"
  | .decimal => "rust_decimal::decimal::Decimal"
  | .text => "alloc::string::String"
  | .timestamp => "chrono::naive::datetime::NaiveDateTime"
  | .guid => "uuid::Uuid"
  | .bytes => "alloc::vec::Vec<u8>"

/-- The types in the order of their declaration. -/
def all : List Scalar :=
  [.bool, .integer .tiny, .integer .small, .integer .regular, .integer .big, .real, .float,
    .decimal, .text, .timestamp, .guid, .bytes]

/-- The short name of the type, which is that of the values it fits. -/
def name : Scalar → String
  | .decimal => "decimal"
  | .text => "string"
  | .timestamp => "timestamp"
  | .guid => "guid"
  | .bytes => "bytes"
  | other => other.typeName

/-- The type with a short name. -/
def ofName? (name : String) : Option Scalar := all.find? fun scalar => scalar.name == name

/-- The value converted to the type, if it can be. -/
def fit? : Scalar → Value → Option Value
  | .integer width, value => value.integer?.bind width.value?
  | .bool, value@(.bool _) => some value
  | .real, value@(.real _) => some value
  | .float, value@(.float _) => some value
  | .float, .real v => some (.float v.widen)
  | .decimal, value@(.decimal _) => some value
  | .text, value@(.text _) => some value
  | .timestamp, value@(.timestamp _) => some value
  | .guid, value@(.guid _) => some value
  | .bytes, value@(.bytes _) => some value
  | _, _ => none

/-- The value read as the type. The mismatch names no column. -/
def decode (scalar : Scalar) (value : Value) : Except Error Value :=
  match scalar.fit? value with
  | some fitted => .ok fitted
  | none => .error (.typeMismatch "" scalar.typeName value.typeName)

/-- The value read as the type, null being allowed. -/
def decodeOption (scalar : Scalar) (value : Value) : Except Error Value :=
  if value.isNull then .ok .null else scalar.decode value

end Scalar

/-- An enumeration stored as an integer. -/
structure Enumeration (α : Type) where
  /-- The name of the enumeration in mismatch messages. -/
  typeName : String
  /-- The integer type it is declared to be stored as. -/
  storage : SqlType
  /-- The number a member is stored as. -/
  toStorage : α → Int
  /-- The member stored as a number. -/
  ofStorage? : Int → Option α

namespace Enumeration

variable {α : Type}

/-- The declared width of the stored number. Other than integer types below 64 bits
count as the widest. -/
def width (enumeration : Enumeration α) : IntegerWidth :=
  match enumeration.storage with
  | .tinyInt => .tiny
  | .smallInt => .small
  | .int => .regular
  | _ => .big

/-- The stored form of a member: at the declared width if its number fits, else at
the widest. -/
def encode (enumeration : Enumeration α) (member : α) : Value :=
  let n := enumeration.toStorage member
  (enumeration.width.value? n).getD (.bigInt (Int64.ofInt n))

/-- The member a value stands for. -/
def decode (enumeration : Enumeration α) (value : Value) : Except Error α :=
  match value.integer? with
  | none => .error (.typeMismatch "" enumeration.typeName value.typeName)
  | some n =>
    match enumeration.ofStorage? n with
    | some member => .ok member
    | none => .error (.typeMismatch "" enumeration.typeName s!"discriminant {n}")

end Enumeration

end RowPayload
