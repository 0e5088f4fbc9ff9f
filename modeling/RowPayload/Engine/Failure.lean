import RowPayload.Sql.Token

/-!
# Engine failures

Why the engine refuses a statement, a transaction step or a payload handle.
-/

namespace RowPayload.Engine

/-- Why the engine refuses a request. -/
inductive Failure where
  | badSyntax (fault : Sql.SyntaxFault)
  | unknownTable (table : String)
  | unknownColumn (table column : String)
  | unboundParameter (ordinal : Nat)
  | duplicateKey (table key : String)
  | columnCount (table : String)
  | connectionClosed
  | transactionActive
  | noTransaction
  | tokenMismatch
  | invalidPath (path : String)
  | queryExecuted
  | statementQueried
  | injected (step : String)
deriving DecidableEq

/-- The wording of a failure. -/
def Failure.message : Failure → String
  | .badSyntax fault => s!"syntax error: {fault.message}"
  | .unknownTable table => s!"invalid object name '{table}'"
  | .unknownColumn table column => s!"invalid column name '{column}' in {table}"
  | .unboundParameter ordinal => s!"parameter @p{ordinal} was not supplied"
  | .duplicateKey table key =>
    s!"violation of primary key on {table}: duplicate key {key}"
  | .columnCount table => s!"insert into {table} has mismatched column and value counts"
  | .connectionClosed => "connection is closed"
  | .transactionActive => "a transaction is already active"
  | .noTransaction => "no active transaction"
  | .tokenMismatch => "transaction token does not match the active transaction"
  | .invalidPath path => s!"invalid path locator '{path}'"
  | .queryExecuted => "SELECT must be run as a query"
  | .statementQueried => "only SELECT can be run as a query"
  | .injected step => s!"injected failure: {step}"

end RowPayload.Engine
