import RowPayload.Number.Style
import RowPayload.Number.Decimal
import RowPayload.Timestamp
import RowPayload.Guid
import RowPayload.Text.Quoted

/-!
# Scalar values

A `Value` is a scalar that a column can hold. Its constructor is also its type:
what a value is bound as, and what it can be read as, is decided by the
constructor alone.

Integers come in four widths. `Value.integer?` forgets the width and
`IntegerWidth.value?` restores one if the number fits, so a number is never cut.
-/

namespace RowPayload

open Number

/-- A sequence of bytes. -/
abbrev Bytes := List UInt8

/-- A scalar value. -/
inductive Value where
  | null
  | bool (value : Bool)
  | tinyInt (value : UInt8)
  | smallInt (value : Int16)
  | int (value : Int32)
  | bigInt (value : Int64)
  | real (value : Single)
  | float (value : Double)
  | decimal (value : Decimal)
  | text (value : String)
  | timestamp (value : Timestamp)
  | guid (value : Guid)
  | bytes (value : Bytes)
deriving DecidableEq

instance : Inhabited Value := ⟨.null⟩

/-- The widths of integers. The smallest has no sign. -/
inductive IntegerWidth where
  | tiny
  | small
  | regular
  | big
deriving DecidableEq

namespace IntegerWidth

/-- The least number of a width. -/
def least : IntegerWidth → Int
  | .tiny => 0
  | .small => -0x8000
  | .regular => -0x80000000
  | .big => -0x8000000000000000

/-- The greatest number of a width. -/
def greatest : IntegerWidth → Int
  | .tiny => 0xFF
  | .small => 0x7FFF
  | .regular => 0x7FFFFFFF
  | .big => 0x7FFFFFFFFFFFFFFF

/-- Whether a number fits a width. -/
def holds (width : IntegerWidth) (n : Int) : Bool := width.least ≤ n && n ≤ width.greatest

/-- A number as a value of a width, if it fits. -/
def value? (width : IntegerWidth) (n : Int) : Option Value :=
  if width.holds n then
    some <| match width with
      | .tiny => .tinyInt (UInt8.ofNat n.toNat)
      | .small => .smallInt (Int16.ofInt n)
      | .regular => .int (Int32.ofInt n)
      | .big => .bigInt (Int64.ofInt n)
  else none

end IntegerWidth

namespace Value

/-- Whether the value is null. -/
def isNull : Value → Bool
  | .null => true
  | _ => false

/-- The short name of the value's constructor. -/
def typeName : Value → String
  | .null => "null"
  | .bool _ => "bool"
  | .tinyInt _ => "u8"
  | .smallInt _ => "i16"
  | .int _ => "i32"
  | .bigInt _ => "i64"
  | .real _ => "f32"
  | .float _ => "f64"
  | .decimal _ => "decimal"
  | .text _ => "string"
  | .timestamp _ => "timestamp"
  | .guid _ => "guid"
  | .bytes _ => "bytes"

/-- The number of an integer of any width. -/
def integer? : Value → Option Int
  | .tinyInt v => some v.toNat
  | .smallInt v => some v.toInt
  | .int v => some v.toInt
  | .bigInt v => some v.toInt
  | _ => none

/-- The truth value of a Boolean. -/
def bool? : Value → Option Bool
  | .bool v => some v
  | _ => none

/-- The characters of a text. -/
def text? : Value → Option String
  | .text v => some v
  | _ => none

/-- The content of binary data. -/
def bytes? : Value → Option Bytes
  | .bytes v => some v
  | _ => none

/-- The identifier of a GUID value. -/
def guid? : Value → Option Guid
  | .guid v => some v
  | _ => none

/-- Equality of two values of one type. Floating-point values and decimals are
compared as numbers, so a value that is not a number differs from itself. -/
def same : Value → Value → Bool
  | .real l, .real r => l.same r
  | .float l, .float r => l.same r
  | .decimal l, .decimal r => l.same r
  | l, r => l == r

/-- Equality as SQL sees it: null equals nothing, integers of any widths are equal
as numbers, and otherwise only values of one type can be equal. -/
def sqlEqual (left right : Value) : Bool :=
  if left.isNull || right.isNull then false
  else match left.integer?, right.integer? with
    | some l, some r => l == r
    | _, _ => left.same right

/-- The text people read. -/
def toText : Value → String
  | .null => "NULL"
  | .bool v => if v then "true" else "false"
  | .tinyInt v => toString v.toNat
  | .smallInt v => toString v.toInt
  | .int v => toString v.toInt
  | .bigInt v => toString v.toInt
  | .real v => Style.plain.write .single v.datum
  | .float v => Style.plain.write .double v.datum
  | .decimal v => v.text
  | .text v => v
  | .timestamp v => v.text
  | .guid v => v.text
  | .bytes v => s!"<{v.length} bytes>"

/-- Bytes as a list of numbers. -/
def describeBytes (bytes : Bytes) : String :=
  "[" ++ ", ".intercalate (bytes.map fun byte => toString byte.toNat) ++ "]"

/-- The constructor and its content, as descriptions show it. -/
def describe : Value → String
  | .null => "Null"
  | .bool v => "Bool(" ++ (if v then "true" else "false") ++ ")"
  | .tinyInt v => s!"TinyInt({v.toNat})"
  | .smallInt v => s!"SmallInt({v.toInt})"
  | .int v => s!"Int({v.toInt})"
  | .bigInt v => s!"BigInt({v.toInt})"
  | .real v => "Real(" ++ Style.described.write .single v.datum ++ ")"
  | .float v => "Float(" ++ Style.described.write .double v.datum ++ ")"
  | .decimal v => "Decimal(" ++ v.text ++ ")"
  | .text v => "Text(" ++ Text.quoted v ++ ")"
  | .timestamp v => "Timestamp(" ++ v.documentText ++ ")"
  | .guid v => "Guid(" ++ v.text ++ ")"
  | .bytes v => "Bytes(" ++ describeBytes v ++ ")"

end Value

end RowPayload
