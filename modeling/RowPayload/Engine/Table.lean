import RowPayload.Engine.Failure
import RowPayload.Mapping.Bracket
import RowPayload.OrderedMap
import RowPayload.Text.Blank
import RowPayload.Text.Piece

/-!
# Tables

A table has columns, some of which hold payloads, and rows, each with a number that
is never used again. At most one column is the key, whose values differ from row to
row when rows are inserted. Columns are found by name, whatever the case of its
ASCII letters.
-/

namespace RowPayload.Engine

/-- A column of a table. -/
structure TableColumn where
  name : String
  isPayload : Bool
deriving DecidableEq

/-- A row of a table: its number and a value for each column. -/
structure TableRow where
  id : Nat
  values : List Value
deriving DecidableEq

/-- The value in a column of a row. -/
def TableRow.cell (row : TableRow) (column : Nat) : Value := row.values.getD column .null

/-- The row with other values in some columns, the last one given for a column
counting. -/
def TableRow.assign (row : TableRow) (cells : List (Nat × Value)) : TableRow :=
  { row with values := cells.foldl (fun values cell => values.set cell.1 cell.2) row.values }

/-- A table. -/
structure Table where
  name : String
  /-- The place of the key column. -/
  key : Option Nat
  columns : List TableColumn
  rows : List TableRow
  nextRowId : Nat
deriving DecidableEq

namespace Table

/-- A table without columns and rows. -/
def empty (name : String) : Table := ⟨name, none, [], [], 1⟩

/-- The table with a further column for scalars. -/
def withColumn (table : Table) (name : String) : Table :=
  { table with columns := table.columns ++ [⟨name, false⟩] }

/-- The table with a further column, which becomes the key. -/
def withKey (table : Table) (name : String) : Table :=
  { table.withColumn name with key := some table.columns.length }

/-- The table with a further column for payloads. -/
def withPayload (table : Table) (name : String) : Table :=
  { table with columns := table.columns ++ [⟨name, true⟩] }

/-- The place of a column. -/
def columnIndex (table : Table) (column : String) : Except Failure Nat :=
  let name := Bracket.strip column
  match table.columns.findIdx? (fun defined => Text.sameLetters defined.name name) with
  | some index => .ok index
  | none => .error (.unknownColumn table.name name)

/-- The place of the first column for payloads. -/
def payloadIndex? (table : Table) : Option Nat := table.columns.findIdx? (·.isPayload)

/-- The row with a number. -/
def row? (table : Table) (id : Nat) : Option TableRow := table.rows.find? (·.id == id)

/-- The first row whose key equals a value. -/
def rowByKey? (table : Table) (key : Value) : Option TableRow :=
  table.key.bind fun column => table.rows.find? fun row => (row.cell column).sqlEqual key

/-- The key that keeps values from being inserted, because a row has it already. -/
def takenKey? (table : Table) (values : List Value) : Option Value :=
  table.key.bind fun column =>
    let key := values.getD column .null
    if (table.rowByKey? key).isSome then some key else none

/-- The table with a further row of values, whose key must be new. -/
def insert (table : Table) (values : List Value) : Except Failure Table :=
  match table.takenKey? values with
  | some key => .error (.duplicateKey table.name key.toText)
  | none => .ok { table with
      rows := table.rows ++ [⟨table.nextRowId, values⟩]
      nextRowId := table.nextRowId + 1 }

/-- The table with another value in one cell. -/
def setCell (table : Table) (id column : Nat) (value : Value) : Table :=
  { table with
    rows := table.rows.map fun row => if row.id = id then row.assign [(column, value)] else row }

/-- The names and values of a row, a repeated name keeping its first place and its
last value. -/
def namedValues (table : Table) (row : TableRow) : OrderedMap String Value :=
  .ofList ((table.columns.map TableColumn.name).zip row.values)

end Table

/-- The characters of the name under which a table is filed: part by part without
blanks around it, without enclosing brackets and with ASCII letters in lower case. -/
def fileNameCharacters (name : List Char) : List Char :=
  Text.join ['.'] ((Text.pieces '.' name).map fun part =>
    Text.lower (Bracket.stripCharacters (Text.trim part)))

/-- The name under which a table is filed. -/
def fileName (name : String) : String := String.ofList (fileNameCharacters name.toList)

/-- Tables under the names they are filed under. -/
abbrev Catalog := OrderedMap String Table

end RowPayload.Engine
