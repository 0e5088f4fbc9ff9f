import RowPayload.Value

/-!
# SQL statements

The statements the engine understands, as trees: insertions, updates, selections and
statements that run only if a selection finds a row, or finds none.
-/

namespace RowPayload.Sql

/-- A place for a value in a statement. -/
inductive Operand where
  | column (name : String)
  | parameter (ordinal : Nat)
  | binary (bytes : Bytes)
  | integer (value : Int)
  | text (content : String)
  | null
deriving DecidableEq

/-- A condition on a row. -/
inductive Condition where
  | equal (left right : Operand)
  | both (left right : Condition)
  | either (left right : Condition)
deriving DecidableEq

/-- What a selection shows of a row. -/
inductive SelectItem where
  | one
  | pathName (column : String)
  | transactionContext
  | column (name : String)
deriving DecidableEq

/-- A selection. Without a filter every row matches. -/
structure Select where
  items : List SelectItem
  table : String
  filter : Option Condition
deriving DecidableEq

/-- A statement. The body of a conditional runs if the probe finds a row, or finds
none if it is negated. -/
inductive Statement where
  | insert (table : String) (columns : List String) (values : List Operand)
  | update (table : String) (assignments : List (String × Operand)) (filter : Option Condition)
  | select (query : Select)
  | conditional (negated : Bool) (probe : Select) (body : Statement)
  | branch (negated : Bool) (probe : Select) (body otherwise : Statement)
deriving DecidableEq

end RowPayload.Sql
