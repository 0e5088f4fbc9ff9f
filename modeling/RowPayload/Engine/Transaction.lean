import RowPayload.Engine.Execution

/-!
# Transactions

A transaction sees the tables as they were when it began, overlaid with the tables
it has changed since. The changed tables are all that committing it publishes, so a
table it has not changed is the table it began with by construction.

The token of a transaction proves that a payload handle is asked for by the
transaction whose query showed it. It begins with a secret of the server and ends
with the number of the transaction, so that no two transactions of a server have the
same one and nobody can tell it who does not know the secret.
-/

namespace RowPayload.Engine

/-- A cell of a table, which is given by the name it is filed under. -/
structure CellAddress where
  table : String
  row : Nat
  column : Nat
deriving DecidableEq

/-- A transaction in progress. -/
structure Transaction where
  /-- How many transactions began before it. -/
  number : Nat
  token : Bytes
  /-- The tables when it began. -/
  origin : Catalog
  /-- The tables it has changed, as it has changed them. -/
  changed : Catalog

namespace Transaction

/-- The token of the transaction with a number: a secret before the number's digits. -/
def tokenOf (secret : Bytes) (number : Nat) : Bytes :=
  secret ++ (toString number).toList.map fun digit => UInt8.ofNat digit.toNat

/-- A transaction that has not changed any table yet. -/
def start (secret : Bytes) (number : Nat) (origin : Catalog) : Transaction :=
  ⟨number, tokenOf secret number, origin, .empty⟩

/-- The table filed under a name, as the transaction sees it. -/
def table? (transaction : Transaction) (name : String) : Option Table :=
  (transaction.changed.get? name).or (transaction.origin.get? name)

/-- The transaction after writing a table. -/
def writeTable (transaction : Transaction) (name : String) (table : Table) : Transaction :=
  { transaction with changed := transaction.changed.insert name table }

/-- The transaction after writing one cell, if the cell's row is there. -/
def writeCell? (transaction : Transaction) (address : CellAddress) (value : Value) :
    Option Transaction := do
  let table ← transaction.table? address.table
  let row ← table.row? address.row
  return transaction.writeTable address.table (table.setCell row.id address.column value)

/-- The cell that a path locator leads to, and the payload in it. -/
def payload? (transaction : Transaction) (path : String) : Option (CellAddress × Bytes) := do
  let (name, id) ← Locator.read? path
  let table ← transaction.table? (fileName name)
  let column ← table.payloadIndex?
  let row ← table.row? id
  let content ← (row.cell column).bytes?
  return (⟨fileName name, id, column⟩, content)

end Transaction

end RowPayload.Engine
