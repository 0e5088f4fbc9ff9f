import RowPayload.Command.Builder
import RowPayload.Mapping.Descriptor
import RowPayload.NewRow

/-!
# Row-lifecycle statements

Before a payload is opened its row has to exist, and some modes empty the payload
first. Each mode needs at most one statement, written from the descriptor, the
compiled filter and the values of a new row. The filter's parameters come first, so
its text can stand in a statement twice and bind the same values.
-/

namespace RowPayload.Lifecycle

variable {ε : Type}

/-- The columns and values of a new row, the payload property left out. -/
def boundColumns (descriptor : Descriptor) :
    List (String × ValueSource ε) → Ambient ε (List (String × Value))
  | [] => return []
  | (property, source) :: rest =>
    if property = descriptor.payload then boundColumns descriptor rest
    else do
      let column ← descriptor.column property
      let value ← source.produce
      let others ← boundColumns descriptor rest
      return (column, value) :: others

/-- Append the insertion of a row with an empty payload. -/
def insert (descriptor : Descriptor) (builder : CommandBuilder) (row : NewRow ε) :
    Ambient ε CommandBuilder := do
  let bound ← boundColumns descriptor row.values.entries
  let columns := bound.map Prod.fst ++ [descriptor.payloadColumn]
  let opening := builder.sql ("INSERT INTO " ++ descriptor.table ++ " (" ++
    ", ".intercalate columns ++ ") VALUES (")
  let filled := bound.foldl
    (fun builder entry => (builder.bind (some entry.1) entry.2).sql ", ") opening
  return filled.sql "0x)"

/-- The condition that a row matches a filter, after a keyword. -/
def probe (descriptor : Descriptor) (keyword : String) (filter : Clause) : String :=
  keyword ++ " (SELECT 1 FROM " ++ descriptor.table ++ " WHERE " ++ filter.sql ++ ") "

/-- The statement that empties the payloads of the rows a filter matches. -/
def emptyPayload (descriptor : Descriptor) (filter : Clause) : String :=
  "UPDATE " ++ descriptor.table ++ " SET " ++ descriptor.payloadColumn ++ " = 0x WHERE " ++
    filter.sql

/-- Insert a row. -/
def createNew (descriptor : Descriptor) (row : NewRow ε) : Ambient ε Command := do
  return (← insert descriptor .empty row).build

/-- Insert a row if no row matches, and empty the payload otherwise. -/
def create (descriptor : Descriptor) (filter : Clause) (row : NewRow ε) :
    Ambient ε Command := do
  let start := (CommandBuilder.seeded filter).sql (probe descriptor "IF NOT EXISTS" filter)
  let inserted ← insert descriptor start row
  return ((inserted.sql " ELSE ").sql (emptyPayload descriptor filter)).build

/-- Insert a row if no row matches. -/
def openOrCreate (descriptor : Descriptor) (filter : Clause) (row : NewRow ε) :
    Ambient ε Command := do
  let start := (CommandBuilder.seeded filter).sql (probe descriptor "IF NOT EXISTS" filter)
  return (← insert descriptor start row).build

/-- Empty the payload if a row matches. -/
def truncate (descriptor : Descriptor) (filter : Clause) : Command :=
  (((CommandBuilder.seeded filter).sql (probe descriptor "IF EXISTS" filter)).sql
    (emptyPayload descriptor filter)).build

/-- The new row that a mode needs. -/
def requireRow (mode : OpenMode) (row : Option (NewRow ε)) : Except Error (NewRow ε) :=
  match row with
  | some row => .ok row
  | none => .error (.invalidMode (.missingNewRow mode))

/-- The statement of a mode, if it has one. -/
def command (descriptor : Descriptor) (mode : OpenMode) (filter : Clause)
    (row : Option (NewRow ε)) : Ambient ε (Option Command) := do
  match mode with
  | .openExisting | .append => return none
  | .truncate => return some (truncate descriptor filter)
  | .createNew => return some (← createNew descriptor (← requireRow mode row))
  | .create => return some (← create descriptor filter (← requireRow mode row))
  | .openOrCreate => return some (← openOrCreate descriptor filter (← requireRow mode row))

/-- The query for the payload's path locator and the transaction's token, and for
every other mapped column if the columns are wanted. -/
def handleQuery (descriptor : Descriptor) (filter : Clause) (wantColumns : Bool) : Command :=
  let columns := if wantColumns then descriptor.scalarColumns.map Prod.snd else []
  let select := "SELECT " ++ descriptor.payloadColumn ++
    ".PathName(), GET_FILESTREAM_TRANSACTION_CONTEXT()" ++
    String.join (columns.map (", " ++ ·))
  (((CommandBuilder.empty.sql select).sql (" FROM " ++ descriptor.table ++ " WHERE ")).splice
    filter).build

end RowPayload.Lifecycle
