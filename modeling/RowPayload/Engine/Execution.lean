import RowPayload.Engine.Condition
import RowPayload.Engine.Locator
import RowPayload.ResultSet

/-!
# Running statements

A statement is run against the tables it sees. It either fails, and then has done
nothing, or has an effect: at most one table is written, and the outcome is a number
of rows or a result set.
-/

namespace RowPayload.Engine

open Sql (Operand Condition SelectItem Select Statement)

/-- What a statement reads and binds: the tables, by the names they are filed under,
the parameters, and the token of the transaction it runs in. -/
structure Scene where
  table? : String → Option Table
  parameters : List Parameter
  token : Option Bytes

/-- What a statement answers. -/
inductive Outcome where
  | affected (count : Nat)
  | rows (result : ResultSet)
deriving DecidableEq

/-- What a statement did. -/
structure Effect where
  /-- The table written, under the name it is filed under. -/
  written : Option (String × Table)
  inserted : Nat
  updated : Nat
  outcome : Outcome
deriving DecidableEq

/-- Nothing was written. -/
def Effect.reading (outcome : Outcome) : Effect := ⟨none, 0, 0, outcome⟩

namespace Scene

/-- The table with a name. -/
def table (scene : Scene) (name : String) : Except Failure Table :=
  match scene.table? (fileName name) with
  | some table => .ok table
  | none => .error (.unknownTable name)

/-- The places and values that assignments of constants to columns stand for. -/
def resolve (scene : Scene) (table : Table) :
    List (String × Operand) → Except Failure (List (Nat × Value))
  | [] => .ok []
  | (column, operand) :: rest => do
    let index ← table.columnIndex column
    let value ← constantValue scene.parameters operand
    let others ← resolve scene table rest
    return (index, value) :: others

/-- Insert a row of constants; the columns not named hold null. -/
def insert (scene : Scene) (name : String) (columns : List String) (operands : List Operand) :
    Except Failure Effect := do
  let table ← scene.table name
  if columns.length ≠ operands.length then throw (.columnCount name)
  let cells ← scene.resolve table (columns.zip operands)
  let blank : TableRow := ⟨table.nextRowId, List.replicate table.columns.length .null⟩
  let grown ← table.insert (blank.assign cells).values
  return ⟨some (fileName name, grown), 1, 0, .affected 1⟩

/-- Assign constants to columns of the rows that pass a filter. -/
def update (scene : Scene) (name : String) (assignments : List (String × Operand))
    (filter : Option Condition) : Except Failure Effect := do
  let table ← scene.table name
  let cells ← scene.resolve table assignments
  let marked ← table.rows.mapM fun row => do
    return (row, ← passes scene.parameters table filter row)
  let count := marked.countP Prod.snd
  let changed := { table with
    rows := marked.map fun (row, matched) => if matched then row.assign cells else row }
  return ⟨if count = 0 then none else some (fileName name, changed), 0, count, .affected count⟩

/-- The name of a selected item in the result; computed items have none. -/
def itemName (table : Table) : SelectItem → Except Failure String
  | .column name => do
    let index ← table.columnIndex name
    return (table.columns[index]?.map TableColumn.name).getD ""
  | _ => .ok ""

/-- The path locator of a row, asked for by a column that has to hold payloads. A row
whose payload is null has none. -/
def pathName (table : Table) (row : TableRow) (column : String) : Except Failure Value := do
  let index ← table.columnIndex column
  unless (table.columns[index]?.map TableColumn.isPayload).getD false do
    throw (.badSyntax (.noPayloadColumn column))
  return if (row.cell index).isNull then .null else .text (Locator.write table.name row.id)

/-- The value of a selected item on a row. -/
def project (scene : Scene) (table : Table) (row : TableRow) :
    SelectItem → Except Failure Value
  | .one => .ok (.int 1)
  | .transactionContext => .ok (scene.token.elim .null .bytes)
  | .column name => columnValue table row name
  | .pathName column => pathName table row column

/-- The selected items of the rows that pass a filter. -/
def selectRows (scene : Scene) (table : Table) (query : Select) :
    List TableRow → Except Failure (List (List Value))
  | [] => .ok []
  | row :: rest => do
    if ← passes scene.parameters table query.filter row then
      let values ← query.items.mapM (scene.project table row)
      let others ← selectRows scene table query rest
      return values :: others
    else selectRows scene table query rest

/-- Select rows. -/
def select (scene : Scene) (query : Select) : Except Failure ResultSet := do
  let table ← scene.table query.table
  let columns ← query.items.mapM (itemName table)
  let rows ← scene.selectRows table query table.rows
  return ⟨columns, rows⟩

/-- Run a statement. -/
def run (scene : Scene) : Statement → Except Failure Effect
  | .insert table columns operands => scene.insert table columns operands
  | .update table assignments filter => scene.update table assignments filter
  | .select query => (scene.select query).map fun result => .reading (.rows result)
  | .conditional negated probe body => do
    let found ← scene.select probe
    if found.rows.isEmpty = negated then run scene body
    else return .reading (.affected 0)
  | .branch negated probe body otherwise => do
    let found ← scene.select probe
    if found.rows.isEmpty = negated then run scene body else run scene otherwise

end Scene

end RowPayload.Engine
