import RowPayload.SqlType
import RowPayload.Engine.Failure
import RowPayload.Predicate.Operator
import RowPayload.Session.Mode

/-!
# Errors

Every failure is a cause, and its wording is a function of the cause. An `IoFault`
is what byte access to a payload reports; an `Error` is what everything else
reports. The errors fall into seven categories, which their numbers show.
-/

namespace RowPayload

/-- Why byte access to a payload failed. -/
inductive IoFault where
  | handleClosed
  | notReadable
  | notWritable
  | badSeek
  | transactionOver
  | rowGone
  | stated (message : String)
deriving DecidableEq

namespace IoFault

/-- The wording of a fault. -/
def message : IoFault → String
  | .handleClosed => "handle is closed"
  | .notReadable => "handle was not opened for reading"
  | .notWritable => "handle was not opened for writing"
  | .badSeek => "invalid seek to a negative or overflowing position"
  | .transactionOver => "transaction is no longer active"
  | .rowGone => "row no longer exists"
  | .stated message => message

/-- The kind of a fault. -/
def kind : IoFault → String
  | .notReadable | .notWritable => "PermissionDenied"
  | .badSeek => "InvalidInput"
  | .rowGone => "NotFound"
  | .handleClosed | .transactionOver | .stated _ => "Other"

end IoFault

/-- What makes a mapping or a schema unusable. -/
inductive MappingFault where
  | emptyTable
  | payloadIsIdentifier (property table : String)
  | payloadColumnDiffers (reported property column : String)
  | enumerationStorage (column : String) (type : SqlType)
  | unregistered (record : String)
  | malformedDocument
  | undescribedEntity (entity : String)
  | stated (message : String)
deriving DecidableEq

/-- The wording of a mapping fault. -/
def MappingFault.message : MappingFault → String
  | .emptyTable => "table name is empty"
  | .payloadIsIdentifier property table =>
    s!"{property} cannot be both the identifier and the payload of {table}"
  | .payloadColumnDiffers reported property column =>
    s!"blob column {reported} does not match the mapping of {property} ({column})"
  | .enumerationStorage column type =>
    s!"enumeration column {column} must use an integer storage type, not {type.sql}"
  | .unregistered record => s!"no schema registered for {record}"
  | .malformedDocument => "malformed metadata document"
  | .undescribedEntity entity =>
    s!"entity {entity} is not described by the metadata document"
  | .stated message => message

/-- What a filter holds that has no compiled form. -/
inductive ExpressionFault where
  | negation
  | operator (op : BinaryOperator)
  | stated (node : String)
deriving DecidableEq

/-- The wording of an expression fault. -/
def ExpressionFault.node : ExpressionFault → String
  | .negation => "NOT"
  | .operator op => s!"binary operator {op.sql} ({op.name})"
  | .stated node => node

/-- Why session options cannot work. -/
inductive ModeFault where
  | missingNewRow (mode : OpenMode)
  | appendReadOnly
  | stated (reason : String)
deriving DecidableEq

/-- The wording of a mode fault. -/
def ModeFault.reason : ModeFault → String
  | .missingNewRow mode => s!"{mode.name} requires new-row values"
  | .appendReadOnly => "Append cannot be combined with Read access"
  | .stated reason => reason

/-- What makes connection settings unusable. -/
inductive SettingsFault where
  | emptyServer
  | missingUser
  | zeroTimeout
  | notAPair (text : String)
  | badTimeout (value : String)
  | badBoolean (value key : String)
  | unknownKey (key : String)
  | missingServer
  | stated (message : String)
deriving DecidableEq

/-- The wording of a settings fault. -/
def SettingsFault.message : SettingsFault → String
  | .emptyServer => "server must not be empty"
  | .missingUser => "a user id is required without integrated security"
  | .zeroTimeout => "connect timeout must be positive"
  | .notAPair text => s!"expected key=value, got '{text}'"
  | .badTimeout value => s!"invalid timeout '{value}'"
  | .badBoolean value key => s!"invalid boolean '{value}' for {key}"
  | .unknownKey key => s!"unknown connection string key '{key}'"
  | .missingServer => "connection string has no server"
  | .stated message => message

/-- Why a database refused a request. A refusal has a message and, beneath it, the
text of its own cause. -/
inductive StoreFault where
  | engine (failure : Engine.Failure)
  | locator (missing : String) (found : Option String)
  | reported (message cause : String)
deriving DecidableEq

namespace StoreFault

/-- The wording of a refusal. -/
def message : StoreFault → String
  | .engine failure => failure.message
  | .locator missing _ => s!"handle query did not return a {missing}"
  | .reported message _ => message

/-- The text of the cause beneath a refusal. -/
def cause : StoreFault → String
  | .engine failure => failure.message
  | .locator missing found =>
    "expected the " ++ missing ++ " column, found " ++ found.getD "nothing"
  | .reported _ cause => cause

end StoreFault

/-- A failure of any operation but byte access. -/
inductive Error where
  | unmappedProperty (property record : String)
  | missingIdentifier (table : String)
  | invalidMapping (fault : MappingFault)
  | typeMismatch (column expected actual : String)
  | unsupportedExpression (fault : ExpressionFault)
  | unsupportedType (typeName : String)
  | invalidMode (fault : ModeFault)
  | rowNotFound (table filter : String)
  | transactionFinished (state : String)
  | store (fault : StoreFault)
  | io (fault : IoFault)
  | invalidConfig (fault : SettingsFault)
deriving DecidableEq

namespace Error

/-- The stable name of the error. -/
def code : Error → String
  | .unmappedProperty .. => "UnmappedProperty"
  | .missingIdentifier .. => "MissingIdentifier"
  | .invalidMapping .. => "InvalidMapping"
  | .typeMismatch .. => "TypeMismatch"
  | .unsupportedExpression .. => "UnsupportedExpression"
  | .unsupportedType .. => "UnsupportedType"
  | .invalidMode .. => "InvalidMode"
  | .rowNotFound .. => "RowNotFound"
  | .transactionFinished .. => "TransactionFinished"
  | .store .. => "Store"
  | .io .. => "Io"
  | .invalidConfig .. => "InvalidConfig"

/-- The stable number of the error; the high byte is the category. -/
def number : Error → Nat
  | .unmappedProperty .. => 0x0100
  | .missingIdentifier .. => 0x0101
  | .invalidMapping .. => 0x0102
  | .typeMismatch .. => 0x0103
  | .unsupportedExpression .. => 0x0200
  | .unsupportedType .. => 0x0201
  | .invalidMode .. => 0x0300
  | .rowNotFound .. => 0x0400
  | .transactionFinished .. => 0x0500
  | .store .. => 0x0600
  | .io .. => 0x0601
  | .invalidConfig .. => 0x0700

/-- The category, read off the number. -/
def category (error : Error) : String :=
  match error.number / 256 with
  | 1 => "Mapping"
  | 2 => "Predicate"
  | 3 => "Mode"
  | 4 => "Row"
  | 5 => "Transaction"
  | 6 => "Store"
  | 7 => "Config"
  | _ => "Unknown"

/-- The wording of the error. -/
def message : Error → String
  | .unmappedProperty property record =>
    s!"failed to map property {property} of type {record}"
  | .missingIdentifier table => s!"no identifier property is mapped for table {table}"
  | .invalidMapping fault => s!"invalid mapping: {fault.message}"
  | .typeMismatch column expected actual =>
    s!"type mismatch for column {column}: expected {expected}, got {actual}"
  | .unsupportedExpression fault => s!"unsupported expression: {fault.node}"
  | .unsupportedType typeName => s!"unsupported parameter type: {typeName}"
  | .invalidMode fault => s!"invalid open mode: {fault.reason}"
  | .rowNotFound table filter => s!"no row in {table} matches {filter}"
  | .transactionFinished state => s!"transaction already {state}"
  | .store fault => s!"store error: {fault.message}"
  | .io fault => s!"I/O error: {fault.message}"
  | .invalidConfig fault => s!"invalid configuration: {fault.message}"

/-- The text of the cause beneath the error, where there is one. -/
def cause? : Error → Option String
  | .store fault => some fault.cause
  | .io fault => some fault.message
  | _ => none

/-- Whether the mapping of records to columns failed. -/
def isMapping : Error → Bool
  | .unmappedProperty .. | .missingIdentifier .. | .invalidMapping .. | .typeMismatch .. => true
  | _ => false

/-- Whether a filter has no compiled form. -/
def isUnsupportedPredicate : Error → Bool
  | .unsupportedExpression .. | .unsupportedType .. => true
  | _ => false

/-- Whether the database or a payload handle reported the failure. -/
def isStore : Error → Bool
  | .store .. | .io .. => true
  | _ => false

/-- A refusal by the engine. -/
def ofEngine (failure : Engine.Failure) : Error := .store (.engine failure)

end Error

end RowPayload
