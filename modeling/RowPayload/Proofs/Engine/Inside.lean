import RowPayload.Engine.Payload

/-!
# Steps inside a transaction

`Inside id before after` says what a step may do that is taken inside the transaction
of a connection: the transaction goes on as the same one, nothing is published, and no
transaction begins or ends. Statements of a connection that is in a transaction and
every operation on a payload handle are such steps, so a whole session between its
beginning and its end is one.
-/

namespace RowPayload.Engine

/-- What a server has counted of transactions and connections. -/
structure Account where
  begins : Nat
  commits : Nat
  rollbacks : Nat
  opened : Nat
  closed : Nat
deriving DecidableEq

/-- The counters of transactions and connections. -/
def Counters.account (counters : Counters) : Account :=
  ⟨counters.begins, counters.commits, counters.rollbacks, counters.connectionsOpened,
    counters.connectionsClosed⟩

namespace Account

/-- A connection more was opened. -/
def withOpened (account : Account) : Account := { account with opened := account.opened + 1 }

/-- A transaction more began. -/
def withBegin (account : Account) : Account := { account with begins := account.begins + 1 }

/-- A transaction more was committed. -/
def withCommit (account : Account) : Account := { account with commits := account.commits + 1 }

/-- A transaction more was rolled back. -/
def withRollback (account : Account) : Account :=
  { account with rollbacks := account.rollbacks + 1 }

/-- A connection more was closed. -/
def withClosed (account : Account) : Account := { account with closed := account.closed + 1 }

end Account

/-- What stays of a transaction as long as it goes on. -/
def Transaction.identity (transaction : Transaction) : Nat × Bytes × Catalog :=
  (transaction.number, transaction.token, transaction.origin)

@[simp] theorem Transaction.identity_writeTable (transaction : Transaction) (name : String)
    (table : Table) : (transaction.writeTable name table).identity = transaction.identity := rfl

/-- Writing a cell writes one table. -/
theorem Transaction.identity_writeCell? {transaction changed : Transaction}
    {address : CellAddress} {value : Value}
    (written : transaction.writeCell? address value = some changed) :
    changed.identity = transaction.identity := by
  simp only [writeCell?, Option.bind_eq_bind, Option.bind_eq_some_iff] at written
  obtain ⟨table, _, row, _, equal⟩ := written
  cases equal
  rfl

namespace Server

/-! ## Connections -/

@[simp] theorem connection_count (server : Server) (change : Counters → Counters) (id : Nat) :
    (server.count change).connection id = server.connection id := rfl

@[simp] theorem connection_setHandle (server : Server) (number : Nat) (handle : Handle)
    (id : Nat) : (server.setHandle number handle).connection id = server.connection id := rfl

/-- A handle that is replaced is the new one. -/
theorem get?_setHandle {server : Server} {number : Nat} {handle : Handle}
    (found : server.handles.get? number = some handle) (changed : Handle) :
    (server.setHandle number changed).handles.get? number = some changed := by
  show (server.handles.set number changed).get? number = _
  rw [Slots.get?_set, if_pos rfl, found]
  rfl

/-- A connection that is not closed occupies a slot. -/
theorem occupied_of_connection {server : Server} {id : Nat} {state : Connection}
    (connected : server.connection id = state) (alive : state ≠ .closed) :
    server.connections.get? id = some state := by
  unfold connection at connected
  cases held : server.connections.get? id with
  | none => exact absurd (by simpa [held] using connected.symm) alive
  | some found => simpa [held] using connected

/-- Putting a connection that is not closed into a state changes that connection only. -/
theorem connection_setConnection {server : Server} {id : Nat}
    (alive : server.connection id ≠ .closed) (state : Connection) (other : Nat) :
    (server.setConnection id state).connection other =
      if other = id then state else server.connection other := by
  have occupied := occupied_of_connection rfl alive
  show ((server.connections.set id state).get? other).getD .closed = _
  rw [Slots.get?_set, occupied]
  split <;> rfl

/-- A connection that is opened is ready, and the others stay as they are. -/
theorem connection_add (server : Server) (id : Nat) :
    ({ server with connections := (server.connections.add .ready).2 } : Server).connection id =
      if id = server.connections.next then .ready else server.connection id := by
  show ((server.connections.add .ready).2.get? id).getD .closed = _
  rw [Slots.get?_add]
  split <;> rfl

/-- A released connection counts as closed, and the others stay as they are. -/
theorem connection_release (server : Server) (id other : Nat) :
    (server.release id).connection other =
      if other = id then .closed else server.connection other := by
  show ((server.connections.free id).get? other).getD .closed = _
  rw [Slots.get?_free]
  split <;> rfl

/-- A transaction in progress once a connection was opened was in progress before. -/
theorem inTransaction_of_add {server : Server} {id : Nat} {transaction : Transaction}
    (held : ({ server with connections := (server.connections.add .ready).2 } : Server).connection
      id = .inTransaction transaction) : server.connection id = .inTransaction transaction := by
  rw [connection_add] at held
  split at held
  · cases held
  · exact held

/-- A transaction in progress once a connection was released was in progress before. -/
theorem inTransaction_of_release {server : Server} {id other : Nat} {transaction : Transaction}
    (held : (server.release id).connection other = .inTransaction transaction) :
    server.connection other = .inTransaction transaction := by
  rw [connection_release] at held
  split at held
  · cases held
  · exact held

/-- What a server publishes stands in place of what it had. -/
theorem get?_publish (server : Server) (tables : Catalog) (name : String) :
    (server.publish tables).catalog.get? name =
      (tables.get? name).or (server.catalog.get? name) :=
  OrderedMap.get?_foldl_insert tables.distinct server.catalog name

/-! ## Steps inside a transaction -/

/-- A step inside the transaction of a connection. -/
structure Inside (id : Nat) (before after : Server) : Prop where
  /-- The transaction goes on. -/
  transaction : ∀ transaction, before.connection id = .inTransaction transaction →
    ∃ later, after.connection id = .inTransaction later ∧ later.identity = transaction.identity
  /-- Nothing is published. -/
  catalog : after.catalog = before.catalog
  /-- No transaction begins or ends, and no connection is opened or closed. -/
  account : after.counters.account = before.counters.account

namespace Inside

variable {id : Nat} {first second third : Server}

/-- Doing nothing is a step inside a transaction. -/
theorem refl (id : Nat) (server : Server) : Inside id server server where
  transaction := fun transaction held => ⟨transaction, held, rfl⟩
  catalog := rfl
  account := rfl

/-- Steps inside a transaction follow each other inside it. -/
theorem trans (earlier : Inside id first second) (later : Inside id second third) :
    Inside id first third where
  transaction := by
    intro transaction held
    obtain ⟨next, nextHeld, nextSame⟩ := earlier.transaction transaction held
    obtain ⟨last, lastHeld, lastSame⟩ := later.transaction next nextHeld
    exact ⟨last, lastHeld, lastSame.trans nextSame⟩
  catalog := later.catalog.trans earlier.catalog
  account := later.account.trans earlier.account

/-- A server that differs in its handles and in counters of other things is reached
inside the transaction. -/
theorem of_eq (connections : second.connections = first.connections)
    (catalog : second.catalog = first.catalog)
    (account : second.counters.account = first.counters.account) : Inside id first second where
  transaction := by
    intro transaction held
    refine ⟨transaction, ?_, rfl⟩
    rw [← held, connection, connection, connections]
  catalog := catalog
  account := account

end Inside

/-- A transaction that goes on in any connection's place leaves every connection inside
its transaction. -/
theorem inside_setConnection {server : Server} {holder : Nat} {transaction later : Transaction}
    (held : server.connection holder = .inTransaction transaction)
    (same : later.identity = transaction.identity) (id : Nat) :
    Inside id server (server.setConnection holder (.inTransaction later)) where
  transaction := by
    intro own ownHeld
    have alive : server.connection holder ≠ .closed := by simp [held]
    rw [connection_setConnection alive]
    by_cases here : id = holder
    · subst here
      have equal : own = transaction := by
        rw [held] at ownHeld
        exact (Connection.inTransaction.inj ownHeld).symm
      exact ⟨later, by simp, by rw [equal, same]⟩
    · exact ⟨own, by simpa [here] using ownHeld, rfl⟩
  catalog := rfl
  account := rfl

/-! ## Statements -/

/-- A statement of a connection that is not closed is parsed and run. -/
theorem run_of_alive {server : Server} {id : Nat} (alive : server.connection id ≠ .closed)
    (command : Command) :
    server.run id command = server.runOpen id (server.connection id) command := by
  unfold run
  split
  · rename_i closed
    exact absurd closed alive
  · rfl

/-- Counting a statement is a step inside every transaction. -/
theorem inside_countStatement (id : Nat) (server : Server) (inserted updated : Nat) :
    Inside id server (server.countStatement inserted updated) :=
  .of_eq rfl rfl rfl

/-- What a statement of a connection in a transaction does: nothing if it cannot be read,
or else it is counted, and may write one table for the transaction. -/
theorem run_inTransaction {server : Server} {id : Nat} {transaction : Transaction}
    (held : server.connection id = .inTransaction transaction) (command : Command) :
    (server.run id command).2 = server ∨
      (∃ inserted updated, (server.run id command).2 = server.countStatement inserted updated) ∨
      ∃ statement effect name table,
        (server.scene (.inTransaction transaction) command.parameters).run statement =
          .ok effect ∧
        effect.written = some (name, table) ∧
        (server.run id command).2 = (server.setConnection id (.inTransaction
          (transaction.writeTable name table))).countStatement effect.inserted effect.updated := by
  simp only [run, held, runOpen]
  cases Sql.parse command.sql with
  | error fault => exact .inl rfl
  | ok statement =>
    right
    dsimp only
    cases ran : (server.scene (.inTransaction transaction) command.parameters).run statement with
    | error failure => exact .inl ⟨0, 0, rfl⟩
    | ok effect =>
      cases written : effect.written with
      | none => exact .inl ⟨effect.inserted, effect.updated, by simp [absorb, written]⟩
      | some entry =>
        right
        refine ⟨statement, effect, entry.1, entry.2, ran, written, ?_⟩
        simp [absorb, written]

/-- A statement of a connection in a transaction is run inside that transaction. -/
theorem inside_run {server : Server} {id : Nat} {transaction : Transaction}
    (held : server.connection id = .inTransaction transaction) (command : Command) :
    Inside id server (server.run id command).2 := by
  rcases run_inTransaction held command with
    same | ⟨inserted, updated, same⟩ | ⟨statement, effect, name, table, -, -, same⟩
  · rw [same]
    exact .refl id server
  · rw [same]
    exact inside_countStatement id server inserted updated
  · rw [same]
    have written := inside_setConnection held (transaction.identity_writeTable name table) id
    exact written.trans (inside_countStatement id _ _ _)

/-- Executing a statement leaves the server that running it does. -/
theorem execute_snd (server : Server) (id : Nat) (command : Command) :
    (server.execute id command).2 = (server.run id command).2 := by
  unfold execute
  split <;> simp_all

/-- Querying counts a query and leaves the server that running the statement does. -/
theorem query_snd (server : Server) (id : Nat) (command : Command) :
    (server.query id command).2 = (server.countQuery.run id command).2 := by
  unfold query
  split <;> simp_all

/-- A statement executed in a transaction stays inside it. -/
theorem inside_execute {server : Server} {id : Nat} {transaction : Transaction}
    (held : server.connection id = .inTransaction transaction) (command : Command) :
    Inside id server (server.execute id command).2 := by
  rw [execute_snd]
  exact inside_run held command

/-- A query in a transaction stays inside it. -/
theorem inside_query {server : Server} {id : Nat} {transaction : Transaction}
    (held : server.connection id = .inTransaction transaction) (command : Command) :
    Inside id server (server.query id command).2 := by
  rw [query_snd]
  have counted : Inside id server server.countQuery := .of_eq rfl rfl rfl
  have stillHeld : server.countQuery.connection id = .inTransaction transaction := held
  exact counted.trans (inside_run stillHeld command)

/-! ## Payload handles -/

/-- Opening a payload is a step inside every transaction. -/
theorem inside_openPayload (id : Nat) (server : Server) (connection : Nat) (path : String)
    (token : Bytes) (access : Access) :
    Inside id server (server.openPayload connection path token access).2 := by
  unfold openPayload
  split
  · exact .refl id server
  · exact .refl id server
  · split
    · exact .refl id server
    · split
      · exact .refl id server
      · exact .of_eq rfl rfl rfl

/-- Work on a handle alone is a step inside every transaction. -/
theorem inside_onHandle {α : Type} (id : Nat) (server : Server) (number : Nat)
    (work : Handle → Except IoFault (α × Handle)) :
    Inside id server (server.onHandle number work).2 := by
  unfold onHandle
  split
  · exact .refl id server
  · split
    · exact .refl id server
    · exact .of_eq rfl rfl rfl

/-- A handle whose transaction is in progress was opened on a connection that is in it. -/
theorem connection_of_transactionOf? {server : Server} {handle : Handle}
    {transaction : Transaction} (found : server.transactionOf? handle = some transaction) :
    server.connection handle.connection = .inTransaction transaction ∧
      transaction.number = handle.transaction := by
  unfold transactionOf? at found
  split at found
  · rename_i held
    split at found
    · rename_i number
      cases found
      exact ⟨held, number⟩
    · cases found
  · cases found
  · cases found

/-- Writing a handle back is a step inside every transaction. -/
theorem inside_writeBack (id : Nat) (server : Server) (number : Nat) (handle : Handle) :
    Inside id server (server.writeBack number handle).2 := by
  unfold writeBack
  split
  · exact .refl id server
  · split
    · exact .refl id server
    · rename_i transaction found
      split
      · exact .refl id server
      · rename_i changed written
        have held := (connection_of_transactionOf? found).1
        have same := Transaction.identity_writeCell? written
        exact .trans (inside_setConnection held same id) (.of_eq rfl rfl rfl)

/-- Flushing a handle is a step inside every transaction. -/
theorem inside_flushPayload (id : Nat) (server : Server) (number : Nat) :
    Inside id server (server.flushPayload number).2 := by
  unfold flushPayload
  split
  · exact .refl id server
  · split
    · exact inside_writeBack id server number _
    · exact .refl id server

/-- Closing a handle is a step inside every transaction. -/
theorem inside_closePayload (id : Nat) (server : Server) (number : Nat) :
    Inside id server (server.closePayload number).2 := by
  unfold closePayload
  split
  · exact .refl id server
  · rename_i handle _
    split
    · have closing : Inside id server (server.setHandle number { handle with isOpen := false }) :=
        .of_eq rfl rfl rfl
      exact closing.trans (inside_writeBack id _ number _)
    · exact .refl id server

/-- Releasing a handle is a step inside every transaction. -/
theorem inside_releasePayload (id : Nat) (server : Server) (number : Nat) :
    Inside id server (server.releasePayload number) :=
  .trans (inside_closePayload id server number) (.of_eq rfl rfl rfl)

end Server

end RowPayload.Engine
