import RowPayload.Connection.SettingsText
import RowPayload.Engine.Handle
import RowPayload.Slots
import RowPayload.Sql.Parser

/-!
# Database servers

A server keeps tables and numbered connections and counts what is done with them. A
statement outside a transaction changes the tables at once, if it succeeds; a
statement within one changes what the transaction sees, and committing publishes the
tables the transaction changed.

Every operation answers with a result and the server afterwards. A test can ask for
the next start or the next commit of a transaction to fail.
-/

namespace RowPayload.Engine

/-- How often things were done. -/
structure Counters where
  statements : Nat
  queries : Nat
  inserts : Nat
  updates : Nat
  begins : Nat
  commits : Nat
  rollbacks : Nat
  payloadsOpened : Nat
  connectionsOpened : Nat
  connectionsClosed : Nat
deriving DecidableEq

namespace Counters

/-- Nothing was done. -/
def zero : Counters := ⟨0, 0, 0, 0, 0, 0, 0, 0, 0, 0⟩

/-- Connections opened and not closed since the counters were at zero. -/
def openConnections (counters : Counters) : Nat :=
  counters.connectionsOpened - counters.connectionsClosed

end Counters

/-- The state of a connection. -/
inductive Connection where
  | closed
  | ready
  | inTransaction (transaction : Transaction)

/-- A database server. -/
structure Server where
  /-- What the tokens of its transactions begin with. -/
  secret : Bytes
  catalog : Catalog
  counters : Counters
  failNextBegin : Bool
  failNextCommit : Bool
  connections : Slots Connection
  handles : Slots Handle
  /-- The number of transactions begun. -/
  transactions : Nat

namespace Server

/-- A server without tables and connections. -/
def ofSecret (secret : Bytes) : Server := ⟨secret, .empty, .zero, false, false, .empty, .empty, 0⟩

instance : Inhabited Server := ⟨ofSecret []⟩

/-! ## Tables and counters -/

/-- File a table, in place of any filed under the same name. -/
def createTable (server : Server) (table : Table) : Server :=
  { server with catalog := server.catalog.insert (fileName table.name) table }

/-- Set the counters to zero. -/
def resetCounters (server : Server) : Server := { server with counters := .zero }

/-- Make the next start of a transaction fail. -/
def refuseNextBegin (server : Server) : Server := { server with failNextBegin := true }

/-- Make the next commit fail, which rolls its transaction back. -/
def refuseNextCommit (server : Server) : Server := { server with failNextCommit := true }

/-- The committed table with a name. -/
def table? (server : Server) (name : String) : Option Table :=
  server.catalog.get? (fileName name)

/-- The number of committed rows in a table, none if there is no such table. -/
def rowCount (server : Server) (name : String) : Nat :=
  ((server.table? name).map fun table => table.rows.length).getD 0

/-- The values of the committed row with a key, by column. -/
def row? (server : Server) (name : String) (key : Value) : Option (OrderedMap String Value) := do
  let table ← server.table? name
  let row ← table.rowByKey? key
  return table.namedValues row

/-- The payload of the committed row with a key. -/
def payload? (server : Server) (name : String) (key : Value) : Option Bytes := do
  let table ← server.table? name
  let column ← table.payloadIndex?
  let row ← table.rowByKey? key
  (row.cell column).bytes?

/-- Change the counters. -/
def count (server : Server) (change : Counters → Counters) : Server :=
  { server with counters := change server.counters }

/-- Publish tables. -/
def publish (server : Server) (tables : Catalog) : Server :=
  { server with
    catalog := tables.entries.foldl (fun catalog entry => catalog.insert entry.1 entry.2)
      server.catalog }

/-! ## Connections and transactions -/

/-- The state of a connection; one that was released counts as closed. -/
def connection (server : Server) (id : Nat) : Connection :=
  (server.connections.get? id).getD .closed

/-- Put a connection into a state. -/
def setConnection (server : Server) (id : Nat) (connection : Connection) : Server :=
  { server with connections := server.connections.set id connection }

/-- Open a connection, whose settings have to be readable. -/
def connect (server : Server) (settings : String) : Except Error Nat × Server :=
  match Settings.parse settings with
  | .error fault => (.error fault, server)
  | .ok _ =>
    let (id, connections) := server.connections.add .ready
    (.ok id, { server with connections := connections }.count fun counters =>
      { counters with connectionsOpened := counters.connectionsOpened + 1 })

/-- Begin a transaction. -/
def beginTransaction (server : Server) (id : Nat) : Except Failure Unit × Server :=
  match server.connection id with
  | .closed => (.error .connectionClosed, server)
  | .inTransaction _ => (.error .transactionActive, server)
  | .ready =>
    if server.failNextBegin then
      (.error (.injected "begin transaction"), { server with failNextBegin := false })
    else
      let transaction := Transaction.start server.secret server.transactions server.catalog
      let started := server.setConnection id (.inTransaction transaction)
      (.ok (), { started with transactions := server.transactions + 1 }.count fun counters =>
        { counters with begins := counters.begins + 1 })

/-- Count a transaction rolled back. -/
def countRollback (server : Server) : Server :=
  server.count fun counters => { counters with rollbacks := counters.rollbacks + 1 }

/-- Commit a transaction. The transaction is over even if this fails. -/
def commit (server : Server) (id : Nat) : Except Failure Unit × Server :=
  match server.connection id with
  | .closed => (.error .connectionClosed, server)
  | .ready => (.error .noTransaction, server)
  | .inTransaction transaction =>
    let ended := server.setConnection id .ready
    if server.failNextCommit then
      (.error (.injected "commit"), { ended with failNextCommit := false }.countRollback)
    else
      (.ok (), (ended.publish transaction.changed).count fun counters =>
        { counters with commits := counters.commits + 1 })

/-- Roll a transaction back. -/
def rollback (server : Server) (id : Nat) : Except Failure Unit × Server :=
  match server.connection id with
  | .closed => (.error .connectionClosed, server)
  | .ready => (.error .noTransaction, server)
  | .inTransaction _ => (.ok (), (server.setConnection id .ready).countRollback)

/-- Close a connection, rolling its transaction back. Closing it again does nothing. -/
def close (server : Server) (id : Nat) : Server :=
  let closing (server : Server) : Server :=
    (server.setConnection id .closed).count fun counters =>
      { counters with connectionsClosed := counters.connectionsClosed + 1 }
  match server.connection id with
  | .closed => server
  | .ready => closing server
  | .inTransaction _ => closing server.countRollback

/-- Forget a connection. A transaction in progress ends without being counted. -/
def release (server : Server) (id : Nat) : Server :=
  { server with connections := server.connections.free id }

/-! ## Statements -/

/-- What a statement on a connection reads and binds. -/
def scene (server : Server) (connection : Connection) (parameters : List Parameter) : Scene :=
  match connection with
  | .inTransaction transaction => ⟨transaction.table?, parameters, some transaction.token⟩
  | .closed | .ready => ⟨server.catalog.get?, parameters, none⟩

/-- Take in the table a statement on a connection has written. -/
def absorb (server : Server) (id : Nat) (connection : Connection) :
    Option (String × Table) → Server
  | none => server
  | some (name, table) =>
    match connection with
    | .inTransaction transaction =>
      server.setConnection id (.inTransaction (transaction.writeTable name table))
    | .closed | .ready => { server with catalog := server.catalog.insert name table }

/-- Count a statement that was run. -/
def countStatement (server : Server) (inserted updated : Nat) : Server :=
  server.count fun counters => { counters with
    statements := counters.statements + 1
    inserts := counters.inserts + inserted
    updates := counters.updates + updated }

/-- Run a statement on an open connection. -/
def runOpen (server : Server) (id : Nat) (connection : Connection) (command : Command) :
    Except Failure Outcome × Server :=
  match Sql.parse command.sql with
  | .error fault => (.error (.badSyntax fault), server)
  | .ok statement =>
    match (server.scene connection command.parameters).run statement with
    | .error failure => (.error failure, server.countStatement 0 0)
    | .ok effect =>
      (.ok effect.outcome,
        (server.absorb id connection effect.written).countStatement effect.inserted effect.updated)

/-- Run a statement. -/
def run (server : Server) (id : Nat) (command : Command) : Except Failure Outcome × Server :=
  match server.connection id with
  | .closed => (.error .connectionClosed, server)
  | connection => server.runOpen id connection command

/-- Execute a statement, which must not select, and answer the number of rows it
affected. -/
def execute (server : Server) (id : Nat) (command : Command) : Except Failure Nat × Server :=
  match server.run id command with
  | (.error failure, after) => (.error failure, after)
  | (.ok (.affected rows), after) => (.ok rows, after)
  | (.ok (.rows _), after) => (.error .queryExecuted, after)

/-- Count a query. -/
def countQuery (server : Server) : Server :=
  server.count fun counters => { counters with queries := counters.queries + 1 }

/-- Run a query. A statement that does not select is run and then refused. -/
def query (server : Server) (id : Nat) (command : Command) :
    Except Failure ResultSet × Server :=
  match server.countQuery.run id command with
  | (.error failure, after) => (.error failure, after)
  | (.ok (.rows result), after) => (.ok result, after)
  | (.ok (.affected _), after) => (.error .statementQueried, after)

end Server

end RowPayload.Engine
