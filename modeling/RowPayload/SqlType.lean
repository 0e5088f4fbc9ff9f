/-!
# SQL types

`SqlType` names the type a column has or a parameter is bound as, in the words of
the database.
-/

namespace RowPayload

/-- The type of a column or of a bound parameter. -/
inductive SqlType where
  | tinyInt
  | smallInt
  | int
  | bigInt
  | bit
  | nvarChar
  | decimal
  | real
  | float
  | dateTime2
  | uniqueIdentifier
  | varBinary
deriving DecidableEq

namespace SqlType

/-- The types in the order of their declaration. -/
def all : List SqlType :=
  [.tinyInt, .smallInt, .int, .bigInt, .bit, .nvarChar, .decimal, .real, .float, .dateTime2,
    .uniqueIdentifier, .varBinary]

/-- The name the database uses. -/
def sql : SqlType → String
  | .tinyInt => "TINYINT"
  | .smallInt => "SMALLINT"
  | .int => "INT"
  | .bigInt => "BIGINT"
  | .bit => "BIT"
  | .nvarChar => "NVARCHAR"
  | .decimal => "DECIMAL"
  | .real => "REAL"
  | .float => "FLOAT"
  | .dateTime2 => "DATETIME2"
  | .uniqueIdentifier => "UNIQUEIDENTIFIER"
  | .varBinary => "VARBINARY"

/-- The name documents and descriptions use. -/
def name : SqlType → String
  | .tinyInt => "TinyInt"
  | .smallInt => "SmallInt"
  | .int => "Int"
  | .bigInt => "BigInt"
  | .bit => "Bit"
  | .nvarChar => "NVarChar"
  | .decimal => "Decimal"
  | .real => "Real"
  | .float => "Float"
  | .dateTime2 => "DateTime2"
  | .uniqueIdentifier => "UniqueIdentifier"
  | .varBinary => "VarBinary"

/-- The type with a document name. -/
def ofName? (name : String) : Option SqlType := all.find? fun type => type.name == name

end SqlType

end RowPayload
