import RowPayload.Command.Basic
import RowPayload.Engine.Table
import RowPayload.Sql.Statement

/-!
# Operands and conditions

An operand is evaluated with the parameters of the command, and on a row if it may
name a column. In a conjunction and in an alternative the right side is evaluated
only if the left one does not settle the matter, so a fault in it may go unseen.
-/

namespace RowPayload.Engine

open Sql (Operand Condition SyntaxFault)

/-- The value of the parameter with an ordinal. -/
def parameterValue (parameters : List Parameter) (ordinal : Nat) : Except Failure Value :=
  match parameters[ordinal]? with
  | some parameter => .ok parameter.value
  | none => .error (.unboundParameter ordinal)

/-- The value of an operand, with a way to read columns. -/
def operandValue (parameters : List Parameter) (column : String → Except Failure Value) :
    Operand → Except Failure Value
  | .column name => column name
  | .parameter ordinal => parameterValue parameters ordinal
  | .binary bytes => .ok (.bytes bytes)
  | .integer number => .ok (.bigInt (Int64.ofInt number))
  | .text content => .ok (.text content)
  | .null => .ok .null

/-- The value in a column of a row, found by the column's name. -/
def columnValue (table : Table) (row : TableRow) (name : String) : Except Failure Value :=
  (table.columnIndex name).map row.cell

/-- The value of an operand that may not name a column. -/
def constantValue (parameters : List Parameter) : Operand → Except Failure Value :=
  operandValue parameters fun name => .error (.badSyntax (.columnNotAllowed name))

/-- Whether a condition holds, with a way to evaluate operands. -/
def holds (value : Operand → Except Failure Value) : Condition → Except Failure Bool
  | .equal left right => do
    let leftValue ← value left
    let rightValue ← value right
    return leftValue.sqlEqual rightValue
  | .both left right => do
    if ← holds value left then holds value right else return false
  | .either left right => do
    if ← holds value left then return true else holds value right

/-- Whether a row passes a filter. -/
def passes (parameters : List Parameter) (table : Table) (filter : Option Condition)
    (row : TableRow) : Except Failure Bool :=
  match filter with
  | none => .ok true
  | some condition => holds (operandValue parameters (columnValue table row)) condition

end RowPayload.Engine
